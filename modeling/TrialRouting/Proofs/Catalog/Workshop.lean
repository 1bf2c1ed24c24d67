import TrialRouting.Registration.Basic
import TrialRouting.Proofs.Scopes

/-!
# The workshop of a catalog

A catalog with everybody who has opened a scope of it, bare or in a guard, and with all that has
been asked so far. Whatever is done with them is a list of steps: implementations are registered,
again under the same name as well, scopes are opened, asked, disposed and dropped, in any order.
Clones of a catalog share everything, so it does not matter which of them a step goes through.

What the answers depend on can be read off the steps: which registration of a name is in force,
how many scopes have been opened, and which of them have been disposed or dropped.
-/

namespace TrialRouting

/-- Where the instances of a registration come from. -/
inductive Source where
  /-- A constructor, with the error of its n-th run, if that fails. -/
  | constructor (fails : Nat → Option ResolveError)
  /-- One instance that has been there from the start. -/
  | shared

/-- What is done with a catalog and its scopes. Scopes are numbered in the order in which they
are opened. -/
inductive CatalogStep where
  | register (name : String) (source : Source) (behavior : Nat → Request → Behavior)
  | openScope (guarded : Bool)
  /-- A scope is asked for the implementation of a trial. -/
  | resolve (scope : Nat) (trial : Trial)
  | dispose (scope : Nat)
  | drop (scope : Nat)

/-- A registration put in force. -/
def Catalog.enroll (c : Catalog) (name : String) (source : Source)
    (behavior : Nat → Request → Behavior) : Catalog :=
  match source with
  | .constructor fails => c.register { name, construction := fails, behavior }
  | .shared => c.registerInstance { name, construction := fun _ => none, behavior }

/-- Somebody who has opened a scope. -/
inductive Holder where
  | guarded (guard : ScopeGuard)
  | bare (scope : Nat)
  /-- The scope has been dropped, and nobody can ask it any more. -/
  | gone

namespace Holder

/-- A scope opened for a holder. -/
def opened (guarded : Bool) (c : Catalog) : Catalog × Holder :=
  if guarded then ((ScopeGuard.ofCatalog c).1, .guarded (ScopeGuard.ofCatalog c).2)
  else (c.openScope, .bare c.nextScope)

/-- The scope asked for the implementation of a trial. -/
def ask (h : Holder) (c : Catalog) (trial : Trial) : Option Resolution :=
  match h with
  | guarded g => some (g.resolve c trial.implementation)
  | bare scope => some (c.resolve scope trial.implementation)
  | gone => none

/-- The scope disposed. -/
def dispose (h : Holder) (c : Catalog) : Catalog × Holder :=
  match h with
  | guarded g => ((g.dispose c).1, .guarded (g.dispose c).2)
  | bare scope => (c.dispose scope, .bare scope)
  | gone => (c, .gone)

/-- The scope dropped; a guard disposes it first. -/
def drop (h : Holder) (c : Catalog) : Catalog × Holder :=
  match h with
  | guarded g => ((g.dispose c).1, .gone)
  | bare scope => (c.drop scope, .gone)
  | gone => (c, .gone)

end Holder

/-- One answer of a scope. -/
structure CatalogReply where
  scope : Nat
  trial : Trial
  result : Except ResolveError Instance
  /-- Name and number of the construction that was tried, if any. -/
  built : Option (String × Nat)

/-- A catalog, those who have opened its scopes, and what these have answered. -/
structure Workshop where
  catalog : Catalog := {}
  holders : List Holder := []
  log : List CatalogReply := []

namespace Workshop

/-- What a scope answers, if somebody still has it. -/
def ask (w : Workshop) (scope : Nat) (trial : Trial) : Option Resolution :=
  (w.holders[scope]?).bind (·.ask w.catalog trial)

/-- The holder of a scope lets go of it in some way. -/
def release (w : Workshop) (scope : Nat) (how : Holder → Catalog → Catalog × Holder) : Workshop :=
  match w.holders[scope]? with
  | none => w
  | some h => { w with
      catalog := (how h w.catalog).1
      holders := w.holders.set scope (how h w.catalog).2 }

/-- The workshop after a step. -/
def after (w : Workshop) : CatalogStep → Workshop
  | .register name source behavior =>
      { w with catalog := w.catalog.enroll name source behavior }
  | .openScope guarded =>
      let opened := Holder.opened guarded w.catalog
      { w with catalog := opened.1, holders := w.holders ++ [opened.2] }
  | .resolve scope trial =>
      match w.ask scope trial with
      | none => w
      | some r =>
          { w with catalog := r.catalog, log := w.log ++ [⟨scope, trial, r.result, r.built⟩] }
  | .dispose scope => w.release scope Holder.dispose
  | .drop scope => w.release scope Holder.drop

/-- The workshop after some steps, from an empty catalog. -/
def run (steps : List CatalogStep) : Workshop :=
  steps.foldl after {}

theorem run_concat (steps : List CatalogStep) (step : CatalogStep) :
    run (steps ++ [step]) = (run steps).after step := by
  simp [run, List.foldl_append]

end Workshop

/-! ### What the steps say -/

namespace CatalogStep

/-- All registrations made, in order. -/
def registrations (steps : List CatalogStep) : List (String × Source) :=
  steps.filterMap fun
    | register name source _ => some (name, source)
    | _ => none

/-- How many scopes have been opened. -/
def opened (steps : List CatalogStep) : Nat :=
  steps.countP fun
    | openScope _ => true
    | _ => false

/-- A registration of a name is in force if the name has not been registered again since. -/
def IsInForce (entries : List (String × Source)) (name : String) (i : Nat) (source : Source) :
    Prop :=
  entries[i]? = some (name, source) ∧ ∀ j other, i < j → entries[j]? ≠ some (name, other)

/-- A scope that had been opened has been disposed since. -/
def IsDisposed (steps : List CatalogStep) (scope : Nat) : Prop :=
  ∃ earlier later, steps = earlier ++ .dispose scope :: later ∧ scope < opened earlier

/-- A scope that had been opened has been dropped since. -/
def IsDropped (steps : List CatalogStep) (scope : Nat) : Prop :=
  ∃ earlier later, steps = earlier ++ .drop scope :: later ∧ scope < opened earlier

/-- A scope has been opened and has neither been disposed nor dropped since. -/
structure IsOpen (steps : List CatalogStep) (scope : Nat) : Prop where
  opened : scope < opened steps
  undisposed : ¬ IsDisposed steps scope
  kept : ¬ IsDropped steps scope

variable {steps : List CatalogStep} {step : CatalogStep} {scope : Nat} {name other : String}
  {entries : List (String × Source)} {source latest : Source} {i : Nat}

/-- Where no step disposes a scope, it has not been disposed. -/
theorem not_isDisposed_of_notMem (never : .dispose scope ∉ steps) : ¬ IsDisposed steps scope := by
  rintro ⟨earlier, later, rfl, -⟩
  exact never (List.mem_append_right _ List.mem_cons_self)

/-- Where no step drops a scope, it has not been dropped. -/
theorem not_isDropped_of_notMem (never : .drop scope ∉ steps) : ¬ IsDropped steps scope := by
  rintro ⟨earlier, later, rfl, -⟩
  exact never (List.mem_append_right _ List.mem_cons_self)

/-- A new registration is the one in force under its name, and the only one: whatever was registered
under it before has been registered again now. -/
theorem isInForce_concat_self :
    IsInForce (entries ++ [(name, latest)]) name i source ↔
      i = entries.length ∧ source = latest := by
  have added : (entries ++ [(name, latest)])[entries.length]? = some (name, latest) :=
    List.getElem?_concat_length
  constructor
  · rintro ⟨listed, last⟩
    have below : i < entries.length + 1 := by
      simpa using (List.getElem?_eq_some_iff.mp listed).1
    have upper : ¬ i < entries.length := fun earlier => last _ latest earlier added
    obtain rfl : i = entries.length := by omega
    rw [added] at listed
    cases listed
    exact ⟨rfl, rfl⟩
  · rintro ⟨rfl, rfl⟩
    refine ⟨added, fun j other later found => ?_⟩
    have bound := (List.getElem?_eq_some_iff.mp found).1
    simp only [List.length_append, List.length_singleton] at bound
    omega

/-- A new registration leaves the other names alone, which stand for what they stood for before. -/
theorem isInForce_concat_of_ne (different : name ≠ other) :
    IsInForce (entries ++ [(other, latest)]) name i source ↔ IsInForce entries name i source := by
  have same (j : Nat) (s : Source) :
      (entries ++ [(other, latest)])[j]? = some (name, s) ↔ entries[j]? = some (name, s) := by
    rcases Nat.lt_trichotomy j entries.length with earlier | rfl | later
    · rw [List.getElem?_append_left earlier]
    · simp [Ne.symm different]
    · rw [List.getElem?_eq_none (Nat.le_of_lt later), List.getElem?_eq_none (by simp; omega)]
  simp only [IsInForce, ne_eq, same]

theorem registrations_append (earlier later : List CatalogStep) :
    registrations (earlier ++ later) = registrations earlier ++ registrations later :=
  List.filterMap_append

theorem opened_append (earlier later : List CatalogStep) :
    opened (earlier ++ later) = opened earlier + opened later :=
  List.countP_append

theorem IsDisposed.opened (disposed : IsDisposed steps scope) : scope < opened steps := by
  obtain ⟨earlier, later, rfl, below⟩ := disposed
  rw [opened_append]
  omega

theorem IsDropped.opened (dropped : IsDropped steps scope) : scope < opened steps := by
  obtain ⟨earlier, later, rfl, below⟩ := dropped
  rw [opened_append]
  omega

/-- What has happened by the end of some steps has happened before the last of them or with it.
Disposing and dropping are both of this kind, so that one lemma serves them. -/
theorem exists_split_concat_iff (last : CatalogStep) :
    (∃ earlier later, steps ++ [step] = earlier ++ last :: later ∧ scope < opened earlier) ↔
      (∃ earlier later, steps = earlier ++ last :: later ∧ scope < opened earlier) ∨
        (step = last ∧ scope < opened steps) := by
  constructor
  · rintro ⟨earlier, later, split, below⟩
    rcases List.eq_nil_or_concat later with rfl | ⟨others, final, rfl⟩
    · obtain ⟨rfl, same⟩ := List.append_inj' split rfl
      exact .inr ⟨List.cons.inj same |>.1, below⟩
    · left
      rw [List.concat_eq_append, ← List.cons_append, ← List.append_assoc] at split
      exact ⟨earlier, others, (List.append_inj' split rfl).1, below⟩
  · rintro (⟨earlier, later, rfl, below⟩ | ⟨rfl, below⟩)
    · exact ⟨earlier, later ++ [step], by simp, below⟩
    · exact ⟨steps, [], rfl, below⟩

theorem isDisposed_concat_iff :
    IsDisposed (steps ++ [step]) scope ↔
      IsDisposed steps scope ∨ (step = .dispose scope ∧ scope < opened steps) :=
  exists_split_concat_iff (.dispose scope)

theorem isDropped_concat_iff :
    IsDropped (steps ++ [step]) scope ↔
      IsDropped steps scope ∨ (step = .drop scope ∧ scope < opened steps) :=
  exists_split_concat_iff (.drop scope)

end CatalogStep

end TrialRouting
