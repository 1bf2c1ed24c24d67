import TrialRouting.Directory
import TrialRouting.Failure
import TrialRouting.Text.Quoted

/-!
# Implementation catalog

The catalog knows by name how implementations are built. Each attempt opens a scope,
which builds an implementation the first time it is asked for and hands out the same
instance after that. A failed construction is not remembered. A disposed scope hands
out nothing; disposing it a second time changes nothing.
-/

namespace TrialRouting

/-- Which kind of method of the routed interface is called. -/
inductive Operation where
  | call
  | count
  | ping
  | sync
  deriving DecidableEq, Repr, Inhabited

/-- The name of an operation, in the journal and as a method of the routed interface. -/
def Operation.name : Operation → String
  | call => "call"
  | count => "count"
  | ping => "ping"
  | sync => "sync"

/-- A method call with its argument. -/
structure Request where
  operation : Operation
  argument : String
  deriving DecidableEq, Repr, Inhabited

/-- What an implementation does with one request, measured from its start. -/
structure Behavior where
  /-- Whether it cancels the caller's token first. -/
  cancelsCaller : Bool := false
  /-- Milliseconds it takes. -/
  pause : Nat := 0
  /-- Whether it never ends. -/
  hangs : Bool := false
  /-- How it ends otherwise. -/
  outcome : Outcome

/-- A built implementation. -/
structure Instance where
  /-- Name it is registered under. -/
  name : String
  /-- Which registration of the name built it. -/
  recipe : Nat
  /-- The number of the construction, from one. -/
  build : Nat
  deriving DecidableEq, Repr, Inhabited

/-- The label of an instance in the journal. -/
def Instance.label (i : Instance) : String :=
  s!"{i.name}#{i.build}"

/-- How an implementation is built and how its instances behave. -/
structure Recipe where
  name : String
  /-- The error of the n-th construction, if it fails. -/
  construction : Nat → Option ResolveError
  /-- The one instance that every scope shares, if there is one. -/
  shared : Option Instance := none
  /-- Constructions so far. -/
  built : Nat := 0
  /-- What the instances do with the n-th request. -/
  behavior : Nat → Request → Behavior
  /-- Requests so far. -/
  requests : Nat := 0

/-- One scope. -/
structure Scope where
  /-- Instances by implementation name. -/
  resolved : Directory Instance := []
  disposed : Bool := false
  deriving Repr, Inhabited

/-- The registrations and scopes. -/
structure Catalog where
  /-- Every registration made, in order. -/
  recipes : List Recipe := []
  /-- The registration in force under each name. -/
  current : Directory Nat := []
  /-- Every scope opened, in order. -/
  scopes : List Scope := []
  /-- Scopes opened and not yet disposed. -/
  openScopes : Nat := 0

/-- What asking a scope for an implementation leads to. -/
structure Resolution where
  /-- The catalog afterwards. -/
  catalog : Catalog
  /-- The instance or why there is none. -/
  result : Except ResolveError Instance
  /-- Name and number of the construction that was tried, if any. -/
  built : Option (String × Nat) := none

namespace Catalog

/-- Number of names registered. -/
def size (c : Catalog) : Nat :=
  c.current.length

/-- Whether a name is registered. -/
def contains (c : Catalog) (name : String) : Bool :=
  (c.current.lookup? name).isSome

/-- A registration put in force under its name. -/
def register (c : Catalog) (recipe : Recipe) : Catalog :=
  { c with
    recipes := c.recipes ++ [recipe]
    current := c.current.set recipe.name c.recipes.length }

/-- A registration whose one instance is built right away. -/
def registerInstance (c : Catalog) (recipe : Recipe) : Catalog :=
  c.register { recipe with shared := some ⟨recipe.name, c.recipes.length, 1⟩, built := 1 }

/-- The number the next scope will have. -/
def nextScope (c : Catalog) : Nat :=
  c.scopes.length

/-- A scope opened. -/
def openScope (c : Catalog) : Catalog :=
  { c with scopes := c.scopes ++ [{}], openScopes := c.openScopes + 1 }

/-- The scope of a number. -/
def scope? (c : Catalog) (id : Nat) : Option Scope :=
  c.scopes[id]?

/-- A scope disposed, unless it was before. -/
def dispose (c : Catalog) (id : Nat) : Catalog :=
  match c.scope? id with
  | none => c
  | some scope =>
      if scope.disposed then c
      else { c with
        scopes := c.scopes.set id { resolved := [], disposed := true }
        openScopes := c.openScopes - 1 }

/-- A scope dropped: it is counted off, unless it was disposed before. -/
def drop (c : Catalog) (id : Nat) : Catalog :=
  match c.scope? id with
  | none => c
  | some scope =>
      if scope.disposed then c
      else { c with
        scopes := c.scopes.set id { scope with disposed := true }
        openScopes := c.openScopes - 1 }

/-- An instance remembered by a scope. -/
def remember (c : Catalog) (id : Nat) (implementation : String) (made : Instance) : Catalog :=
  { c with
    scopes := c.scopes.modify id fun scope =>
      { scope with resolved := scope.resolved.set implementation made } }

/-- A construction by a registration: the instance or why it failed. -/
def construct (c : Catalog) (recipe : Nat) (r : Recipe) : Resolution :=
  match r.shared with
  | some made => { catalog := c, result := .ok made }
  | none =>
      let number := r.built + 1
      { catalog := { c with recipes := c.recipes.set recipe { r with built := number } }
        result := match r.construction number with
          | some e => .error e
          | none => .ok ⟨r.name, recipe, number⟩
        built := some (r.name, number) }

/-- A scope asked for an implementation. -/
def resolve (c : Catalog) (id : Nat) (implementation : String) : Resolution :=
  match c.scope? id with
  | none => { catalog := c, result := .error .disposed }
  | some scope =>
      if scope.disposed then { catalog := c, result := .error .disposed }
      else match scope.resolved.lookup? implementation with
        | some made => { catalog := c, result := .ok made }
        | none =>
            match (c.current.lookup? implementation).bind fun i => (c.recipes[i]?).map (i, ·) with
            | none => { catalog := c, result := .error (.unregistered implementation) }
            | some (i, recipe) =>
                let attempt := c.construct i recipe
                match attempt.result with
                | .error _ => attempt
                | .ok made =>
                    { attempt with catalog := attempt.catalog.remember id implementation made }

/-- What an instance does with its registration's next request. -/
def behavior (c : Catalog) (made : Instance) (request : Request) : Behavior :=
  match c.recipes[made.recipe]? with
  | none => { outcome := .error (.routing .cancelled) }
  | some recipe => recipe.behavior recipe.requests request

/-- The catalog after an instance has got a request. -/
def countRequest (c : Catalog) (made : Instance) : Catalog :=
  { c with recipes := c.recipes.modify made.recipe fun r => { r with requests := r.requests + 1 } }

/-- The catalog in words. -/
def description (c : Catalog) : String :=
  Text.describe "ImplementationCatalog"
    [("implementations", toString c.size), ("open_scopes", toString c.openScopes)] true

end Catalog

/-- The holder of one scope: it lets go of the scope when it disposes it, so it does
    that once. -/
structure ScopeGuard where
  /-- The scope, until it is disposed. -/
  held : Option Nat
  deriving DecidableEq, Repr, Inhabited

namespace ScopeGuard

/-- A guard that still has its scope. -/
def holding (id : Nat) : ScopeGuard :=
  ⟨some id⟩

/-- A guard over a scope opened for it. -/
def ofCatalog (c : Catalog) : Catalog × ScopeGuard :=
  (c.openScope, holding c.nextScope)

/-- Whether the scope is gone. -/
def isDisposed (g : ScopeGuard) : Bool :=
  g.held.isNone

/-- The guarded scope asked for an implementation. -/
def resolve (g : ScopeGuard) (c : Catalog) (implementation : String) : Resolution :=
  match g.held with
  | some id => c.resolve id implementation
  | none => { catalog := c, result := .error .disposed }

/-- The guarded scope disposed, unless it was before. The guard lets go of it, so it is
    dropped as well. -/
def dispose (g : ScopeGuard) (c : Catalog) : Catalog × ScopeGuard :=
  match g.held with
  | some id => ((c.dispose id).drop id, ⟨none⟩)
  | none => (c, g)

/-- The guard in words. -/
def description (g : ScopeGuard) : String :=
  Text.describe "ScopeGuard" [("disposed", toString g.isDisposed)] true

end ScopeGuard

end TrialRouting
