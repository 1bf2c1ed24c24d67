import TrialRouting.State

/-!
# What calls share without changing it

Calls number what they do: scopes, constructions, telemetry scopes, spans. What two runs have
written is compared without these numbers. Calls also read a part of the state that none of
them changes, the backdrop: the modes and their sources, and what the catalog offers. A catalog
counts constructions and requests, but registrations that are steady build and behave the same
way each time, so the counts do not show.
-/

namespace TrialRouting

/-! ### Records without their numbers -/

/-- An instance without the number of its construction. -/
def Instance.anonymous (i : Instance) : Instance :=
  { i with build := 0 }

/-- A telemetry scope without its number. -/
def Telemetry.Scope.anonymous (scope : Telemetry.Scope) : Telemetry.Scope :=
  { scope with number := 0 }

/-- A span without its number and that of its call. -/
def Trace.Span.anonymous (span : Trace.Span) : Trace.Span :=
  { span with id := 0, invocation := 0 }

/-- An entry of a trace without numbers of spans and calls. -/
def Trace.Entry.anonymous : Trace.Entry → Trace.Entry
  | .opened span fields => .opened span.anonymous fields
  | .recorded span fields => .recorded span.anonymous fields
  | .event e current => .event e (current.map Trace.Span.anonymous)

/-- A line of the journal without numbers of scopes, constructions and telemetry scopes. -/
def Note.anonymous : Note → Note
  | .scopeOpened _ => .scopeOpened 0
  | .resolving _ key implementation => .resolving 0 key implementation
  | .scopeDisposed _ => .scopeDisposed 0
  | .built name _ => .built name 0
  | .called made request => .called made.anonymous request
  | .dropped made => .dropped made.anonymous
  | .telemetry scope report => .telemetry scope.anonymous report
  | n => n

/-- A context without the number of its call. -/
def Context.anonymous (c : Context) : Context :=
  { c with invocation := 0 }

/-- Contexts that are the same but for the number of the call agree in all the rest, which is what
is written and compared. -/
theorem Context.agree_of_anonymous {c c' : Context} (same : c.anonymous = c'.anonymous) :
    c.service = c'.service ∧ c.method = c'.method ∧ c.selected = c'.selected ∧
      c.key = c'.key ∧ c.attempt = c'.attempt := by
  simp only [anonymous, mk.injEq] at same
  exact ⟨same.2.1, same.2.2.1, same.2.2.2.2.1, same.2.2.2.2.2.2.1, same.2.2.2.2.2.2.2⟩

/-- Instances that are the same but for their number stem from the same registration, and so behave
the same if it is steady. -/
theorem Instance.recipe_eq_of_anonymous {i i' : Instance} (same : i.anonymous = i'.anonymous) :
    i.recipe = i'.recipe := by
  simp only [anonymous, mk.injEq] at same
  exact same.2.1

/-- Telemetry scopes that are the same but for their number agree in all the rest. -/
theorem Telemetry.Scope.agree_of_anonymous {scope scope' : Telemetry.Scope}
    (same : scope.anonymous = scope'.anonymous) :
    scope.service = scope'.service ∧ scope.method = scope'.method := by
  simp only [anonymous, mk.injEq] at same
  exact ⟨same.2.1, same.2.2.1⟩

theorem Trace.Span.map_some_anonymous {span span' : Trace.Span}
    (same : span.anonymous = span'.anonymous) :
    (some span).map anonymous = (some span').map anonymous :=
  congrArg some same

/-! ### What calls read and do not change -/

/-- A registration without what has been counted. -/
def Recipe.uncounted (r : Recipe) : Recipe :=
  { r with built := 0, requests := 0 }

/-- A registration that builds and behaves the same way each time. One that counts its requests
would tell calls of each other. -/
structure Recipe.IsSteady (r : Recipe) : Prop where
  construction : ∀ n, r.construction n = r.construction 0
  behavior : ∀ n request, r.behavior n request = r.behavior 0 request

/-- The mode of a trial says the same whatever the generator draws. A random mode would hand on what
other calls have drawn. -/
def Selector.IsFixed (selector : Selector) (r : Registration) : Prop :=
  ∀ mode, selector.mode? r.mode = some mode → ∀ seed method,
    ({ selector with seed } : Selector).opinion r method mode = selector.opinion r method mode

/-- The part of the state that calls read and do not change, besides the clock. All that one call
may know of the others would have to go through something else. -/
structure Backdrop where
  timer : Timer
  wallClock : UInt64
  /-- The modes and their sources, without the generator. -/
  selector : Selector
  /-- The registration in force under each name. -/
  current : Directory Nat
  recipes : List Recipe

/-- The backdrop of a state. -/
def State.backdrop (s : State) : Backdrop where
  timer := s.timer
  wallClock := s.wallClock
  selector := { s.selector with seed := 0 }
  current := s.catalog.current
  recipes := s.catalog.recipes.map Recipe.uncounted

/-- Registrations that are the same but for what has been counted agree in all the rest. -/
theorem Recipe.agree_of_uncounted {r r' : Recipe} (same : r.uncounted = r'.uncounted) :
    r.name = r'.name ∧ r.construction = r'.construction ∧ r.shared = r'.shared ∧
      r.behavior = r'.behavior := by
  simp only [uncounted, mk.injEq] at same
  exact ⟨same.1, same.2.1, same.2.2.1, same.2.2.2.2.1⟩

namespace Catalog

/-- A catalog that offers what another one offers. What it has counted and remembered may be
different. -/
structure Offers (c c' : Catalog) : Prop where
  current : c'.current = c.current
  recipes : c'.recipes.map Recipe.uncounted = c.recipes.map Recipe.uncounted

theorem Offers.refl (c : Catalog) : c.Offers c :=
  ⟨rfl, rfl⟩

theorem Offers.trans {c c' c'' : Catalog} (first : c.Offers c') (second : c'.Offers c'') :
    c.Offers c'' :=
  ⟨second.current.trans first.current, second.recipes.trans first.recipes⟩

theorem Offers.backdrop_eq {s : State} {c : Catalog} (offers : s.catalog.Offers c) :
    ({ s with catalog := c } : State).backdrop = s.backdrop := by
  simp only [State.backdrop, offers.current, offers.recipes]

theorem offers_dispose (c : Catalog) (id : Nat) : c.Offers (c.dispose id) := by
  unfold dispose
  split
  · exact .refl c
  · split
    · exact .refl c
    · exact ⟨rfl, rfl⟩

theorem offers_drop (c : Catalog) (id : Nat) : c.Offers (c.drop id) := by
  unfold drop
  split
  · exact .refl c
  · split
    · exact .refl c
    · exact ⟨rfl, rfl⟩

/-- Counting a request does not change what is offered. -/
theorem offers_countRequest (c : Catalog) (made : Instance) : c.Offers (c.countRequest made) := by
  refine ⟨rfl, List.ext_getElem? fun i => ?_⟩
  rw [List.getElem?_map, List.getElem?_map, countRequest, List.getElem?_modify]
  cases c.recipes[i]? with
  | none => rfl
  | some r =>
    by_cases counted : made.recipe = i
    · simp only [counted, if_true]
      rfl
    · simp only [counted, if_false]
      rfl

/-- Nor does counting a construction. -/
theorem offers_construct {c : Catalog} {i : Nat} {r : Recipe} (listed : c.recipes[i]? = some r) :
    c.Offers (c.construct i r).catalog := by
  unfold construct
  split
  · exact .refl c
  · obtain ⟨bound, rfl⟩ := List.getElem?_eq_some_iff.mp listed
    have known : i < (c.recipes.map Recipe.uncounted).length := by rwa [List.length_map]
    have same : (c.recipes.map Recipe.uncounted)[i] = (c.recipes[i]).uncounted :=
      List.getElem_map _
    refine ⟨rfl, ?_⟩
    rw [List.map_set]
    exact (congrArg _ same.symm).trans (List.set_getElem_self known)

/-- A scope that is asked for an implementation only counts and remembers. What the catalog offers
to others stays the same. -/
theorem offers_resolve (c : Catalog) (id : Nat) (implementation : String) :
    c.Offers (c.resolve id implementation).catalog := by
  unfold resolve
  split
  · exact .refl c
  · split
    · exact .refl c
    · split
      · exact .refl c
      · split
        · exact .refl c
        · next i recipe found =>
          have listed : c.recipes[i]? = some recipe := by
            obtain ⟨j, -, there⟩ := Option.bind_eq_some_iff.mp found
            obtain ⟨r, there, same⟩ := Option.map_eq_some_iff.mp there
            cases same
            exact there
          have constructs : c.Offers (c.construct i recipe).catalog := offers_construct listed
          dsimp only
          split
          · exact constructs
          · exact constructs.trans ⟨rfl, rfl⟩

end Catalog

/-- What asking for an implementation has led to in two runs is the same but for the number
of the construction. -/
structure Resolution.Alike (r r' : Resolution) : Prop where
  built : r.built.map Prod.fst = r'.built.map Prod.fst
  result : r.result.map Instance.anonymous = r'.result.map Instance.anonymous

/-- Either both have failed, or both have come to an instance. In the latter case the instances only
differ by their numbers. -/
theorem Resolution.Alike.result_cases {r r' : Resolution} (alike : r.Alike r') :
    (∃ e, r.result = .error e ∧ r'.result = .error e) ∨
      ∃ made made', r.result = .ok made ∧ r'.result = .ok made' ∧
        made.anonymous = made'.anonymous := by
  have same := alike.result
  cases here : r.result with
  | error e =>
    cases there : r'.result with
    | error e' =>
      rw [here, there] at same
      cases same
      exact .inl ⟨e, rfl, rfl⟩
    | ok made' =>
      rw [here, there] at same
      cases same
  | ok made =>
    cases there : r'.result with
    | error e' =>
      rw [here, there] at same
      cases same
    | ok made' =>
      rw [here, there] at same
      exact .inr ⟨made, made', rfl, rfl, Except.ok.inj same⟩

/-- A steady registration builds the same each time, however often others have had it build. -/
theorem Catalog.construct_alike {r r' : Recipe} (same : r.uncounted = r'.uncounted)
    (steady : r.uncounted.IsSteady) (c c' : Catalog) (i : Nat) :
    (c.construct i r).Alike (c'.construct i r') := by
  obtain ⟨name, builds, shared, -⟩ := Recipe.agree_of_uncounted same
  have still : r.construction (r.built + 1) = r'.construction (r'.built + 1) := by
    rw [← builds]
    exact (steady.construction _).trans (steady.construction _).symm
  simp only [construct, shared, still, name]
  cases r'.shared with
  | some made => exact ⟨rfl, rfl⟩
  | none =>
    cases r'.construction (r'.built + 1) with
    | none => exact ⟨rfl, rfl⟩
    | some e => exact ⟨rfl, rfl⟩

end TrialRouting
