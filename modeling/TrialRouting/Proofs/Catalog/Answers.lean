import TrialRouting.Proofs.Catalog.Workshop

/-!
# How a catalog answers

A catalog has its registrations on record, and a name stands for the last one made under it. A
scope answers in one of six ways, and what it remembers is what it has answered with.
-/

namespace TrialRouting

/-- What a registration has put on record. -/
structure Recipe.IsOf (r : Recipe) (i : Nat) (entry : String × Source) : Prop where
  name : r.name = entry.1
  source : match entry.2 with
    | .constructor fails => r.shared = none ∧ r.construction = fails
    | .shared => r.shared = some ⟨r.name, i, 1⟩

namespace Catalog

variable {c c' : Catalog} {id i : Nat} {name other : String} {scope : Scope} {r : Recipe}
  {entries : List (String × Source)} {source : Source} {answer : Resolution}

/-! ### Registrations on record -/

/-- A catalog has these registrations on record. -/
structure Enrolls (c : Catalog) (entries : List (String × Source)) : Prop where
  length : c.recipes.length = entries.length
  recipes : ∀ i (r : Recipe), c.recipes[i]? = some r →
    ∃ entry, entries[i]? = some entry ∧ r.IsOf i entry
  current : ∀ name i, c.current.lookup? name = some i ↔
    ∃ source, CatalogStep.IsInForce entries name i source

/-- A construction by a registration has been counted. -/
def counted (c : Catalog) (i : Nat) (r : Recipe) : Catalog :=
  { c with recipes := c.recipes.set i { r with built := r.built + 1 } }

theorem getElem?_counted (listed : c.recipes[i]? = some r) :
    (c.counted i r).recipes[i]? = some { r with built := r.built + 1 } :=
  List.getElem?_set_self (List.getElem?_eq_some_iff.mp listed).1

namespace Enrolls

theorem nil : ({} : Catalog).Enrolls [] where
  length := rfl
  recipes := by simp
  current := by simp [Directory.lookup?, CatalogStep.IsInForce]

/-- Only what is on record of registrations matters. Scopes may be opened, asked and closed without
a change to it. -/
theorem congr (enrolls : c.Enrolls entries) (recipes : c'.recipes = c.recipes)
    (current : c'.current = c.current) : c'.Enrolls entries where
  length := by rw [recipes, enrolls.length]
  recipes := by rw [recipes]; exact enrolls.recipes
  current := by rw [current]; exact enrolls.current

theorem register (enrolls : c.Enrolls entries) (isOf : r.IsOf entries.length (r.name, source)) :
    (c.register r).Enrolls (entries ++ [(r.name, source)]) where
  length := by simp [Catalog.register, enrolls.length]
  recipes := by
    intro i other listed
    simp only [Catalog.register] at listed
    by_cases earlier : i < c.recipes.length
    · rw [List.getElem?_append_left earlier] at listed
      rw [List.getElem?_append_left (enrolls.length ▸ earlier)]
      exact enrolls.recipes i other listed
    · have bound := (List.getElem?_eq_some_iff.mp listed).1
      simp only [List.length_append, List.length_singleton] at bound
      obtain rfl : i = c.recipes.length := by omega
      rw [List.getElem?_concat_length] at listed
      cases listed
      refine ⟨(r.name, source), ?_, ?_⟩
      · rw [enrolls.length, List.getElem?_concat_length]
      · rw [enrolls.length]
        exact isOf
  current := by
    intro name i
    by_cases same : name = r.name
    · subst same
      simp [Catalog.register, Directory.lookup?_set_self, CatalogStep.isInForce_concat_self,
        enrolls.length, eq_comm]
    · simp only [Catalog.register, Directory.lookup?_set_of_ne _ _ same,
        CatalogStep.isInForce_concat_of_ne same, enrolls.current]

theorem enroll (enrolls : c.Enrolls entries) (behavior : Nat → Request → Behavior) :
    (c.enroll name source behavior).Enrolls (entries ++ [(name, source)]) := by
  cases source with
  | constructor fails =>
    exact enrolls.register (r := { name, construction := fails, behavior }) ⟨rfl, rfl, rfl⟩
  | shared =>
    refine enrolls.register (r := { name, construction := fun _ => none, behavior, built := 1
                                    shared := some ⟨name, c.recipes.length, 1⟩ }) ⟨rfl, ?_⟩
    rw [enrolls.length]

theorem counted (enrolls : c.Enrolls entries) (listed : c.recipes[i]? = some r) :
    (c.counted i r).Enrolls entries where
  length := by simp [Catalog.counted, enrolls.length]
  recipes := by
    intro j other found
    by_cases same : i = j
    · subst same
      cases (getElem?_counted listed).symm.trans found
      obtain ⟨entry, known, isOf⟩ := enrolls.recipes i r listed
      exact ⟨entry, known, isOf.name, isOf.source⟩
    · exact enrolls.recipes j other ((List.getElem?_set_ne same).symm.trans found)
  current := enrolls.current

/-- The registration in force under a name has its recipe on record, and that is what the
registration has put there. So looking a name up never leads nowhere. -/
theorem exists_recipe (enrolls : c.Enrolls entries) (known : c.current.lookup? name = some i) :
    ∃ r source, c.recipes[i]? = some r ∧ CatalogStep.IsInForce entries name i source ∧
      r.IsOf i (name, source) := by
  obtain ⟨source, listed, last⟩ := (enrolls.current name i).mp known
  have below : i < c.recipes.length := enrolls.length ▸ (List.getElem?_eq_some_iff.mp listed).1
  obtain ⟨entry, found, isOf⟩ := enrolls.recipes i _ (List.getElem?_eq_getElem below)
  rw [listed] at found
  cases found
  exact ⟨_, source, List.getElem?_eq_getElem below, ⟨listed, last⟩, isOf⟩

end Enrolls

/-- Registrations stay on record, and their constructions are counted on. -/
def Grown (c c' : Catalog) : Prop :=
  ∀ (i : Nat) (r : Recipe), c.recipes[i]? = some r →
    ∃ r' : Recipe, c'.recipes[i]? = some r' ∧ r'.shared = r.shared ∧ r.built ≤ r'.built

theorem Grown.refl (c : Catalog) : c.Grown c :=
  fun _ r listed => ⟨r, listed, rfl, Nat.le_refl _⟩

theorem Grown.enroll (c : Catalog) (behavior : Nat → Request → Behavior) :
    c.Grown (c.enroll name source behavior) := by
  intro i r listed
  have below := (List.getElem?_eq_some_iff.mp listed).1
  refine ⟨r, ?_, rfl, Nat.le_refl _⟩
  cases source <;> exact (List.getElem?_append_left below).trans listed

theorem Grown.counted (listed : c.recipes[i]? = some r) : c.Grown (c.counted i r) := by
  intro j other found
  by_cases same : i = j
  · subst same
    cases listed.symm.trans found
    exact ⟨_, getElem?_counted listed, rfl, Nat.le_succ _⟩
  · exact ⟨other, (List.getElem?_set_ne same).trans found, rfl, Nat.le_refl _⟩

/-! ### What a scope answers -/

/-- The ways in which a scope answers. -/
inductive Answers (c : Catalog) (id : Nat) (name : String) (scope : Scope) : Resolution → Prop where
  | disposed (gone : scope.disposed = true) :
      Answers c id name scope { catalog := c, result := .error .disposed }
  | remembered {made : Instance} (isOpen : scope.disposed = false)
      (known : scope.resolved.lookup? name = some made) :
      Answers c id name scope { catalog := c, result := .ok made }
  | unregistered (isOpen : scope.disposed = false) (new : scope.resolved.lookup? name = none)
      (unknown : c.current.lookup? name = none) :
      Answers c id name scope { catalog := c, result := .error (.unregistered name) }
  /-- The instance that has been there from the start is handed out. -/
  | handed {i : Nat} {r : Recipe} {made : Instance} (isOpen : scope.disposed = false)
      (new : scope.resolved.lookup? name = none) (current : c.current.lookup? name = some i)
      (listed : c.recipes[i]? = some r) (shared : r.shared = some made) :
      Answers c id name scope { catalog := c.remember id name made, result := .ok made }
  | failed {i : Nat} {r : Recipe} {e : ResolveError} (isOpen : scope.disposed = false)
      (new : scope.resolved.lookup? name = none) (current : c.current.lookup? name = some i)
      (listed : c.recipes[i]? = some r) (own : r.shared = none)
      (fails : r.construction (r.built + 1) = some e) :
      Answers c id name scope
        { catalog := c.counted i r, result := .error e, built := some (r.name, r.built + 1) }
  | constructed {i : Nat} {r : Recipe} (isOpen : scope.disposed = false)
      (new : scope.resolved.lookup? name = none) (current : c.current.lookup? name = some i)
      (listed : c.recipes[i]? = some r) (own : r.shared = none)
      (succeeds : r.construction (r.built + 1) = none) :
      Answers c id name scope
        { catalog := (c.counted i r).remember id name ⟨r.name, i, r.built + 1⟩
          result := .ok ⟨r.name, i, r.built + 1⟩
          built := some (r.name, r.built + 1) }

theorem construct_of_shared {made : Instance} (shared : r.shared = some made) :
    c.construct i r = { catalog := c, result := .ok made } := by
  unfold construct
  rw [shared]

theorem construct_of_own (own : r.shared = none) :
    c.construct i r = { catalog := c.counted i r
                        result := match r.construction (r.built + 1) with
                          | some e => .error e
                          | none => .ok ⟨r.name, i, r.built + 1⟩
                        built := some (r.name, r.built + 1) } := by
  unfold construct
  split
  · simp_all
  · rfl

/-- A scope that has been disposed. -/
theorem resolve_of_disposed (found : c.scopes[id]? = some scope) (gone : scope.disposed = true) :
    c.resolve id name = { catalog := c, result := .error .disposed } := by
  have here : c.scope? id = some scope := found
  simp only [resolve, here, gone, if_true]

/-- An open scope that remembers an instance. -/
theorem resolve_of_known {made : Instance} (found : c.scopes[id]? = some scope)
    (isOpen : scope.disposed = false) (known : scope.resolved.lookup? name = some made) :
    c.resolve id name = { catalog := c, result := .ok made } := by
  have here : c.scope? id = some scope := found
  simp only [resolve, here, isOpen, Bool.false_eq_true, if_false, known]

/-- A name that nothing is registered under. -/
theorem resolve_of_unregistered (found : c.scopes[id]? = some scope)
    (isOpen : scope.disposed = false) (new : scope.resolved.lookup? name = none)
    (unknown : c.current.lookup? name = none) :
    c.resolve id name = { catalog := c, result := .error (.unregistered name) } := by
  have here : c.scope? id = some scope := found
  simp only [resolve, here, isOpen, Bool.false_eq_true, if_false, new, unknown, Option.bind_none]

/-- What comes of a construction for a scope: an instance is remembered, and a failure is not. -/
def taken (id : Nat) (name : String) (attempt : Resolution) : Resolution :=
  match attempt.result with
  | .error _ => attempt
  | .ok made => { attempt with catalog := attempt.catalog.remember id name made }

/-- An open scope that has not answered a name yet goes by the registration in force. Its instance
is remembered if there is one, and a failure leaves no mark on the scope. -/
theorem resolve_of_new (found : c.scopes[id]? = some scope) (isOpen : scope.disposed = false)
    (new : scope.resolved.lookup? name = none) (current : c.current.lookup? name = some i)
    (listed : c.recipes[i]? = some r) : c.resolve id name = taken id name (c.construct i r) := by
  have here : c.scope? id = some scope := found
  cases result : (c.construct i r).result <;>
    simp only [resolve, here, isOpen, Bool.false_eq_true, if_false, new, current, Option.bind_some,
      listed, Option.map_some, taken, result]

/-- A scope that has been opened answers in one of these ways. The cases are looked at in the
catalog's own order: whether the scope is disposed, what it remembers, what is registered, and what
comes of the construction. -/
theorem answers_resolve (found : c.scopes[id]? = some scope) (name : String)
    (complete : ∀ i, c.current.lookup? name = some i → ∃ r, c.recipes[i]? = some r) :
    c.Answers id name scope (c.resolve id name) := by
  cases isOpen : scope.disposed with
  | true =>
    rw [resolve_of_disposed found isOpen]
    exact .disposed isOpen
  | false =>
    cases new : scope.resolved.lookup? name with
    | some made =>
      rw [resolve_of_known found isOpen new]
      exact .remembered isOpen new
    | none =>
      cases current : c.current.lookup? name with
      | none =>
        rw [resolve_of_unregistered found isOpen new current]
        exact .unregistered isOpen new current
      | some i =>
        obtain ⟨r, listed⟩ := complete i current
        rw [resolve_of_new found isOpen new current listed]
        cases shared : r.shared with
        | some made =>
          rw [construct_of_shared shared]
          exact .handed isOpen new current listed shared
        | none =>
          rw [construct_of_own shared]
          cases fails : r.construction (r.built + 1) with
          | some e => exact .failed isOpen new current listed shared fails
          | none => exact .constructed isOpen new current listed shared fails

namespace Answers

/-- Answering leaves the other scopes alone: an instance is remembered by the scope that has been
asked, and by no other. -/
theorem scopes_of_ne (answers : c.Answers id name scope answer) (different : i ≠ id) :
    answer.catalog.scopes[i]? = c.scopes[i]? := by
  cases answers with
  | handed | constructed =>
    simp [remember, Catalog.counted, Ne.symm different]
  | _ => rfl

theorem length_scopes (answers : c.Answers id name scope answer) :
    answer.catalog.scopes.length = c.scopes.length := by
  cases answers with
  | handed | constructed => simp [remember, Catalog.counted]
  | _ => rfl

/-- The scope itself remembers the instance it has answered with. What is newly remembered is found
under its own name only, so that it answers for other names as before. -/
theorem scopes_self (answers : c.Answers id name scope answer)
    (found : c.scopes[id]? = some scope) :
    ∃ scope', answer.catalog.scopes[id]? = some scope' ∧ scope'.disposed = scope.disposed ∧
      (scope.disposed = false → ∀ other made, scope'.resolved.lookup? other = some made ↔
        scope.resolved.lookup? other = some made ∨
          (name = other ∧ answer.result = .ok made)) := by
  have kept {made : Instance} (new : scope.resolved.lookup? name = none) (other : String)
      (m : Instance) : (scope.resolved.set name made).lookup? other = some m ↔
        scope.resolved.lookup? other = some m ∨
          (name = other ∧ (.ok made : Except ResolveError Instance) = .ok m) := by
    by_cases same : other = name
    · subst same
      simp [Directory.lookup?_set_self, new]
    · simp [Directory.lookup?_set_of_ne _ _ same, Ne.symm same]
  cases answers with
  | disposed gone => exact ⟨scope, found, rfl, fun isOpen => by simp [gone] at isOpen⟩
  | remembered isOpen known =>
    refine ⟨scope, found, rfl, fun _ other m => ⟨.inl, ?_⟩⟩
    rintro (already | ⟨rfl, same⟩)
    · exact already
    · rw [known, Except.ok.inj same]
  | unregistered | failed => exact ⟨scope, found, rfl, by simp⟩
  | handed isOpen new | constructed isOpen new =>
    refine ⟨{ scope with resolved := scope.resolved.set name _ }, ?_, rfl, fun _ => kept new⟩
    simp [remember, Catalog.counted, found]

/-- Answering keeps what is on record of registrations. -/
theorem enrolls (answers : c.Answers id name scope answer) (enrolls : c.Enrolls entries) :
    answer.catalog.Enrolls entries := by
  cases answers with
  | disposed | remembered | unregistered => exact enrolls
  | handed => exact enrolls.congr rfl rfl
  | failed _ _ _ listed => exact enrolls.counted listed
  | constructed _ _ _ listed => exact (enrolls.counted listed).congr rfl rfl

/-- What is constructed goes by the name that was asked for. -/
theorem name_of_built (answers : c.Answers id name scope answer) (enrolls : c.Enrolls entries)
    {number : Nat} (built : answer.built = some (other, number)) : name = other := by
  cases answers with
  | disposed | remembered | unregistered | handed => cases built
  | failed _ _ current listed | constructed _ _ current listed =>
    cases built
    obtain ⟨r', source, listed', -, isOf⟩ := enrolls.exists_recipe current
    cases listed.symm.trans listed'
    exact isOf.name.symm

/-- A constructor only runs for an open scope that does not remember the implementation. -/
theorem new_of_built (answers : c.Answers id name scope answer)
    (runs : answer.built ≠ none) :
    scope.disposed = false ∧ scope.resolved.lookup? name = none := by
  cases answers with
  | disposed | remembered | unregistered | handed => exact absurd rfl runs
  | failed isOpen new | constructed isOpen new => exact ⟨isOpen, new⟩

/-- Registrations stay on record, and constructions are only counted on. -/
theorem grown (answers : c.Answers id name scope answer) : c.Grown answer.catalog := by
  cases answers with
  | disposed | remembered | unregistered => exact .refl c
  | handed => exact fun i r => Grown.refl c i r
  | failed _ _ _ listed => exact .counted listed
  | constructed _ _ _ listed => exact fun i r => Grown.counted listed i r

end Answers

/-! ### Closing a scope -/

/-- A scope has been closed, and nothing else has changed. -/
structure Closes (c : Catalog) (id : Nat) (c' : Catalog) : Prop where
  recipes : c'.recipes = c.recipes
  current : c'.current = c.current
  length : c'.scopes.length = c.scopes.length
  others : ∀ i, i ≠ id → c'.scopes[i]? = c.scopes[i]?
  closed : ∀ scope, c'.scopes[id]? = some scope → scope.disposed = true

/-- A scope that is closed already. -/
theorem Closes.refl (found : c.scopes[id]? = some scope) (gone : scope.disposed = true) :
    c.Closes id c where
  recipes := rfl
  current := rfl
  length := rfl
  others := fun _ _ => rfl
  closed := by
    intro other same
    cases found.symm.trans same
    exact gone

theorem Closes.set (scope : Scope) (gone : scope.disposed = true) (count : Nat) :
    c.Closes id { c with scopes := c.scopes.set id scope, openScopes := count } where
  recipes := rfl
  current := rfl
  length := List.length_set
  others := fun _ different => List.getElem?_set_ne (Ne.symm different)
  closed := by
    intro other found
    simp only [List.getElem?_set, if_true] at found
    split at found
    · cases found
      exact gone
    · cases found

theorem closes_dispose (found : c.scopes[id]? = some scope) : c.Closes id (c.dispose id) := by
  have here : c.scope? id = some scope := found
  cases gone : scope.disposed with
  | true =>
    simp only [dispose, here, gone, if_true]
    exact .refl found gone
  | false =>
    simp only [dispose, here, gone, Bool.false_eq_true, if_false]
    exact .set _ rfl _

theorem closes_drop (found : c.scopes[id]? = some scope) : c.Closes id (c.drop id) := by
  have here : c.scope? id = some scope := found
  cases gone : scope.disposed with
  | true =>
    simp only [drop, here, gone, if_true]
    exact .refl found gone
  | false =>
    simp only [drop, here, gone, Bool.false_eq_true, if_false]
    exact .set _ rfl _

end Catalog

end TrialRouting
