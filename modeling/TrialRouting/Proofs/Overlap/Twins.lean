import Mathlib.Data.List.Forall2
import TrialRouting.Proofs.Overlap.Backdrop
import TrialRouting.Proofs.Tokens

/-!
# Two runs side by side

A call that runs among others and the same call in another run do the same things under
different numbers. Which token of one run stands for which of the other is kept in a pairing.
Two runs in which the call has its turn meet in two states, and stay twins as long as each only
grows by what the other grows by, while the backdrop stands still.
-/

namespace TrialRouting

/-! ### Tokens of two runs -/

/-- Which token of one run stands for which of the other. -/
abbrev Pairing := Nat → Nat → Prop

/-- Two tokens stand for one another, and so do those above them, one by one. -/
def Token.Alike (R : Pairing) (u u' : Token) : Prop :=
  List.Forall₂ R (u.id :: u.above) (u'.id :: u'.above)

/-- A pairing of issued tokens, one with one, that are cancelled together. -/
structure Pairing.Fair (R : Pairing) (f g : TokenForest) : Prop where
  here : f.Sound
  there : g.Sound
  issued : ∀ {i j}, R i j → i < f.issued ∧ j < g.issued
  unique : ∀ {i j i' j'}, R i j → R i' j' → (i = i' ↔ j = j')
  status : ∀ {i j}, R i j → (i ∈ f.cancelled ↔ j ∈ g.cancelled)

namespace Token.Alike

variable {R R' : Pairing} {u u' : Token}

theorem id (alike : Alike R u u') : R u.id u'.id := by
  cases alike with
  | cons first _ => exact first

theorem mono (alike : Alike R u u') (wider : ∀ {i j}, R i j → R' i j) : Alike R' u u' :=
  List.Forall₂.imp (fun _ _ pair => wider pair) alike

theorem exists_of_mem (alike : Alike R u u') {i : Nat} (member : i ∈ u.id :: u.above) :
    ∃ j, R i j := by
  obtain ⟨n, bound, rfl⟩ := List.getElem_of_mem member
  have length := List.Forall₂.length_eq alike
  exact ⟨_, List.Forall₂.get alike bound (length ▸ bound)⟩

/-- Tokens that are cancelled together, with those above them, have the same status. -/
theorem isCancelled_eq {f g : TokenForest} (alike : Alike R u u')
    (status : ∀ {i j}, R i j → (i ∈ f.cancelled ↔ j ∈ g.cancelled)) :
    f.isCancelled u = g.isCancelled u' := by
  have any {l l' : List Nat} (pairs : List.Forall₂ R l l') :
      l.any (f.cancelled.contains ·) = l'.any (g.cancelled.contains ·) := by
    induction pairs with
    | nil => rfl
    | cons pair _ ih =>
      rw [List.any_cons, List.any_cons, ih, List.contains_eq_mem, List.contains_eq_mem,
        decide_eq_decide.mpr (status pair)]
  exact any alike

end Token.Alike

/-! ### Meetings -/

/-- The states in which a call has its turn in two runs, and the tokens that stand for one
another there. -/
structure Meeting where
  here : State
  there : State
  known : Pairing

namespace Meeting

/-- The tokens that stand for one another: those known, and those issued since, in order. -/
def same (m : Meeting) : Pairing := fun i j =>
  m.known i j ∨ ∃ k, i = m.here.tokens.issued + k ∧ j = m.there.tokens.issued + k

/-- Those of them that have been issued by now. -/
def held (m : Meeting) (s t : State) : Pairing := fun i j =>
  m.same i j ∧ i < s.tokens.issued ∧ j < t.tokens.issued

/-- The runs meet at the same time before the same backdrop. -/
structure Fair (m : Meeting) : Prop where
  now : m.here.now = m.there.now
  backdrop : m.here.backdrop = m.there.backdrop
  steady : ∀ recipe ∈ m.here.backdrop.recipes, recipe.IsSteady
  tokens : m.known.Fair m.here.tokens m.there.tokens

variable {m : Meeting}

theorem same_of_known {i j : Nat} (known : m.known i j) : m.same i j :=
  .inl known

/-- The pairing stays one of one with one. Tokens that are issued later are paired in order, and are
none of those known. -/
theorem Fair.unique (fair : m.Fair) {i j i' j' : Nat} (pair : m.same i j) (pair' : m.same i' j') :
    i = i' ↔ j = j' := by
  rcases pair with old | ⟨k, rfl, rfl⟩
  · have before := fair.tokens.issued old
    rcases pair' with old' | ⟨k', rfl, rfl⟩
    · exact fair.tokens.unique old old'
    · omega
  · rcases pair' with old' | ⟨k', rfl, rfl⟩
    · have before := fair.tokens.issued old'
      omega
    · omega

end Meeting

/-- Tokens that were held are held as more are issued. The pairing only ever grows. -/
theorem Token.Alike.later {m : Meeting} {s t s' t' : State} {u u' : Token}
    (alike : u.Alike (m.held s t) u') (here : s.tokens.issued ≤ s'.tokens.issued)
    (there : t.tokens.issued ≤ t'.tokens.issued) : u.Alike (m.held s' t') u' :=
  alike.mono fun pair =>
    ⟨pair.1, Nat.lt_of_lt_of_le pair.2.1 here, Nat.lt_of_lt_of_le pair.2.2 there⟩

/-- Two lists have grown by entries that are the same but for their numbers. What stood there before
is not compared. -/
def GrownAlike {α : Type} (anonymous : α → α) (old now old' now' : List α) : Prop :=
  ∃ new new', now = old ++ new ∧ now' = old' ++ new' ∧ new.map anonymous = new'.map anonymous

namespace GrownAlike

variable {α : Type} {anonymous : α → α} {old now old' now' : List α}

theorem refl (old old' : List α) : GrownAlike anonymous old old old' old' :=
  ⟨[], [], (List.append_nil _).symm, (List.append_nil _).symm, rfl⟩

theorem append (grown : GrownAlike anonymous old now old' now') {more more' : List α}
    (alike : more.map anonymous = more'.map anonymous) :
    GrownAlike anonymous old (now ++ more) old' (now' ++ more') := by
  obtain ⟨new, new', rfl, rfl, same⟩ := grown
  refine ⟨new ++ more, new' ++ more', List.append_assoc .., List.append_assoc .., ?_⟩
  rw [List.map_append, List.map_append, same, alike]

theorem here_prefix (grown : GrownAlike anonymous old now old' now') : old <+: now := by
  obtain ⟨new, -, here, -, -⟩ := grown
  exact ⟨new, here.symm⟩

end GrownAlike

/-- What has become of two runs since they met differs by its numbers only. This is the invariant of
the whole comparison. -/
structure Meeting.Twin (m : Meeting) (s t : State) : Prop where
  fair : m.Fair
  now : s.now = m.here.now
  nowThere : t.now = m.there.now
  backdrop : s.backdrop = m.here.backdrop
  backdropThere : t.backdrop = m.there.backdrop
  issued : ∃ k, s.tokens.issued = m.here.tokens.issued + k ∧
    t.tokens.issued = m.there.tokens.issued + k
  sound : s.tokens.Sound
  soundThere : t.tokens.Sound
  status : ∀ {i j}, m.same i j → (i ∈ s.tokens.cancelled ↔ j ∈ t.tokens.cancelled)
  /-- What has been cancelled since is the call's. -/
  confined : ∀ i ∈ s.tokens.cancelled, i ∈ m.here.tokens.cancelled ∨ ∃ j, m.same i j
  kept : ∀ i ∈ m.here.tokens.cancelled, i ∈ s.tokens.cancelled
  journal : GrownAlike Note.anonymous m.here.journal s.journal m.there.journal t.journal
  trace : GrownAlike Trace.Entry.anonymous m.here.trace s.trace m.there.trace t.trace
  samples : GrownAlike id m.here.samples s.samples m.there.samples t.samples

/-- What both runs have come to since they met: states that are twins, and results that are
alike with the tokens that are held by then. -/
structure Meeting.Agrees {α : Type} (m : Meeting) (alike : Pairing → α → α → Prop)
    (x y : State × α) : Prop where
  states : m.Twin x.1 y.1
  results : alike (m.held x.1 y.1) x.2 y.2

namespace Meeting.Agrees

variable {m : Meeting} {α β : Type} {alike : Pairing → β → β → Prop} {s : State}
  {y : State × (α ⊕ β)}

/-- If one run has come to an end, the other has come to the same. -/
theorem of_inl {a : α}
    (agrees : m.Agrees (fun R => Sum.LiftRel Eq (alike R)) (s, .inl a) y) :
    ∃ t, y = (t, .inl a) ∧ m.Twin s t := by
  obtain ⟨t, r⟩ := y
  cases agrees.results with
  | inl same =>
    cases same
    exact ⟨t, rfl, agrees.states⟩

/-- If one run goes on, the other goes on alike. -/
theorem of_inr {b : β}
    (agrees : m.Agrees (fun R => Sum.LiftRel Eq (alike R)) (s, .inr b) y) :
    ∃ t b', y = (t, .inr b') ∧ m.Twin s t ∧ alike (m.held s t) b b' := by
  obtain ⟨t, r⟩ := y
  cases agrees.results with
  | @inr _ b' same => exact ⟨t, b', rfl, agrees.states, same⟩

end Meeting.Agrees

namespace Meeting

variable {m : Meeting} {s t : State}

/-- Runs that meet are twins. Nothing has happened since. -/
theorem Fair.twin (fair : m.Fair) : m.Twin m.here m.there where
  fair := fair
  now := rfl
  nowThere := rfl
  backdrop := rfl
  backdropThere := rfl
  issued := ⟨0, rfl, rfl⟩
  sound := fair.tokens.here
  soundThere := fair.tokens.there
  status := by
    rintro i j (old | ⟨k, rfl, rfl⟩)
    · exact fair.tokens.status old
    · -- Neither has been issued yet, so neither has been cancelled.
      constructor
      · intro cancelled
        exact absurd (fair.tokens.here _ cancelled) (by omega)
      · intro cancelled
        exact absurd (fair.tokens.there _ cancelled) (by omega)
  confined := fun _ before => .inl before
  kept := fun _ before => before
  journal := .refl _ _
  trace := .refl _ _
  samples := .refl _ _

namespace Twin

theorem clock (twin : m.Twin s t) : s.now = t.now :=
  twin.now.trans (twin.fair.now.trans twin.nowThere.symm)

theorem backdrop_eq (twin : m.Twin s t) : s.backdrop = t.backdrop :=
  twin.backdrop.trans (twin.fair.backdrop.trans twin.backdropThere.symm)

theorem isCancelled_eq (twin : m.Twin s t) {u u' : Token} (alike : u.Alike m.same u') :
    s.isCancelled u = t.isCancelled u' :=
  Token.Alike.isCancelled_eq alike twin.status

/-! #### Tokens -/

theorem issueToken (twin : m.Twin s t) : m.Twin s.issueToken t.issueToken := by
  obtain ⟨k, here, there⟩ := twin.issued
  have issued : s.issueToken.tokens.issued = m.here.tokens.issued + (k + 1) ∧
      t.issueToken.tokens.issued = m.there.tokens.issued + (k + 1) :=
    ⟨congrArg (· + 1) here, congrArg (· + 1) there⟩
  exact { twin with
    issued := ⟨k + 1, issued⟩
    sound := fun i cancelled => Nat.lt_succ_of_lt (twin.sound i cancelled)
    soundThere := fun i cancelled => Nat.lt_succ_of_lt (twin.soundThere i cancelled) }

/-- The next tokens below tokens that stand for one another stand for one another. Both runs issue
as many as the other. -/
theorem nextChild (twin : m.Twin s t) {u u' : Token} (alike : u.Alike (m.held s t) u') :
    (s.tokens.nextChild u).Alike (m.held s.issueToken t.issueToken) (t.tokens.nextChild u') := by
  obtain ⟨k, here, there⟩ := twin.issued
  exact .cons ⟨.inr ⟨k, here, there⟩, Nat.lt_succ_self _, Nat.lt_succ_self _⟩
    (alike.later (Nat.le_succ _) (Nat.le_succ _))

/-- Tokens that stand for one another are cancelled. All others keep their status in both runs. -/
theorem cancel (twin : m.Twin s t) {u u' : Token} (alike : u.Alike (m.held s t) u') :
    m.Twin (s.cancel u) (t.cancel u') := by
  obtain ⟨pair, issued, issuedThere⟩ := alike.id
  refine { twin with sound := ?_, soundThere := ?_, status := ?_, confined := ?_, kept := ?_ }
  · intro i cancelled
    rcases List.mem_cons.mp cancelled with rfl | before
    · exact issued
    · exact twin.sound i before
  · intro i cancelled
    rcases List.mem_cons.mp cancelled with rfl | before
    · exact issuedThere
    · exact twin.soundThere i before
  · intro i j pair'
    have together : i = u.id ↔ j = u'.id := twin.fair.unique pair' pair
    simp only [State.cancel, TokenForest.cancel, List.mem_cons, together, twin.status pair']
  · intro i cancelled
    rcases List.mem_cons.mp cancelled with rfl | before
    · exact .inr ⟨_, pair⟩
    · exact twin.confined i before
  · exact fun i before => List.mem_cons_of_mem _ (twin.kept i before)

theorem handOut (twin : m.Twin s t) (u u' : Token) : m.Twin (s.handOut u) (t.handOut u') :=
  { twin with }

/-! #### Journal, trace and metrics -/

theorem notes (twin : m.Twin s t) {ns ns' : List Note}
    (alike : ns.map Note.anonymous = ns'.map Note.anonymous) :
    m.Twin (s.notes ns) (t.notes ns') :=
  { twin with journal := twin.journal.append alike }

theorem note (twin : m.Twin s t) {n n' : Note} (alike : n.anonymous = n'.anonymous) :
    m.Twin (s.note n) (t.note n') :=
  twin.notes (by rw [List.map_singleton, List.map_singleton, alike])

theorem record (twin : m.Twin s t) {e e' : Trace.Entry} (alike : e.anonymous = e'.anonymous) :
    m.Twin (s.record e) (t.record e') :=
  { twin with
    trace := twin.trace.append (by rw [List.map_singleton, List.map_singleton, alike]) }

theorem emit (twin : m.Twin s t) {span span' : Option Trace.Span}
    (alike : span.map Trace.Span.anonymous = span'.map Trace.Span.anonymous) (e : Trace.Event) :
    m.Twin (s.emit span e) (t.emit span' e) :=
  twin.record (congrArg (Trace.Entry.event e) alike)

theorem openSpan (twin : m.Twin s t) {span span' : Trace.Span}
    (alike : span.anonymous = span'.anonymous) (fields : List Trace.Field) :
    m.Twin (s.openSpan span fields) (t.openSpan span' fields) :=
  have recorded : m.Twin (s.record (.opened span fields)) (t.record (.opened span' fields)) :=
    twin.record (congrArg (Trace.Entry.opened · fields) alike)
  { recorded with }

/-- A report to telemetry scopes that only differ by their numbers is heard alike by every
provider. -/
theorem report (twin : m.Twin s t) (provider : Telemetry.Provider)
    {span span' : Option Trace.Span}
    (spans : span.map Trace.Span.anonymous = span'.map Trace.Span.anonymous)
    {scope scope' : Telemetry.Scope} (scopes : scope.anonymous = scope'.anonymous)
    (r : Telemetry.Report) :
    m.Twin (s.report provider span scope r) (t.report provider span' scope' r) := by
  obtain ⟨service, method⟩ := Telemetry.Scope.agree_of_anonymous scopes
  cases provider with
  | silent => exact twin
  | recorder => exact twin.note (congrArg (Note.telemetry · r) scopes)
  | tracing =>
    have event : r.event? scope = r.event? scope' := by
      cases r <;> simp only [Telemetry.Report.event?, service, method]
    simp only [State.report, event]
    cases r.event? scope' with
    | none => exact twin
    | some e => exact twin.emit spans e
  | metrics =>
    have samples : r.samples scope = r.samples scope' := by
      cases r <;>
        simp only [Telemetry.Report.samples, Telemetry.outcomeSamples, service, method]
    exact { twin with samples := twin.samples.append (congrArg (List.map id) samples) }

/-! #### The catalog -/

/-- Changes of the catalogs that leave what they offer as it is. The backdrop does not see them. -/
theorem withCatalog (twin : m.Twin s t) {c c' : Catalog} (here : s.catalog.Offers c)
    (there : t.catalog.Offers c') : m.Twin { s with catalog := c } { t with catalog := c' } :=
  { twin with
    backdrop := here.backdrop_eq.trans twin.backdrop
    backdropThere := there.backdrop_eq.trans twin.backdropThere }

theorem openScope (twin : m.Twin s t) : m.Twin s.openScope t.openScope :=
  have noted : m.Twin (s.note (.scopeOpened s.catalog.nextScope))
      (t.note (.scopeOpened t.catalog.nextScope)) := twin.note rfl
  noted.withCatalog ⟨rfl, rfl⟩ ⟨rfl, rfl⟩

/-- Scopes are disposed by their guards. -/
theorem dropGuard (twin : m.Twin s t) (scope scope' : Nat) :
    m.Twin (s.dropGuard (.holding scope)) (t.dropGuard (.holding scope')) :=
  have noted : m.Twin (s.note (.scopeDisposed scope)) (t.note (.scopeDisposed scope')) :=
    twin.note rfl
  noted.withCatalog ((Catalog.offers_dispose _ scope).trans (Catalog.offers_drop _ scope))
    ((Catalog.offers_dispose _ scope').trans (Catalog.offers_drop _ scope'))

/-- A registration offered in one run is offered in the other, and is steady. -/
theorem recipe_agrees (twin : m.Twin s t) (i : Nat) :
    (s.catalog.recipes[i]? = none ∧ t.catalog.recipes[i]? = none) ∨
      ∃ r r', s.catalog.recipes[i]? = some r ∧ t.catalog.recipes[i]? = some r' ∧
        r.uncounted = r'.uncounted ∧ r.uncounted.IsSteady := by
  have recipes : s.backdrop.recipes[i]? = t.backdrop.recipes[i]? :=
    congrArg (·.recipes[i]?) twin.backdrop_eq
  simp only [State.backdrop, List.getElem?_map] at recipes
  cases here : s.catalog.recipes[i]? with
  | none =>
    rw [here, Option.map_none, eq_comm, Option.map_eq_none_iff] at recipes
    exact .inl ⟨rfl, recipes⟩
  | some r =>
    rw [here, Option.map_some, eq_comm, Option.map_eq_some_iff] at recipes
    obtain ⟨r', there, same⟩ := recipes
    have listed : r.uncounted ∈ m.here.backdrop.recipes :=
      twin.backdrop ▸ List.mem_map_of_mem (List.mem_of_getElem? here)
    exact .inr ⟨r, r', rfl, there, same.symm, twin.fair.steady _ listed⟩

/-- What a scope that has just been opened builds is the same in both runs, but for the number of
the construction. Remembering the instance changes neither the answer nor what was built. -/
theorem resolve (twin : m.Twin s t) {id id' : Nat} (new : s.catalog.scope? id = some {})
    (newThere : t.catalog.scope? id' = some {}) (implementation : String) :
    (s.catalog.resolve id implementation).Alike (t.catalog.resolve id' implementation) := by
  have current : s.catalog.current = t.catalog.current :=
    congrArg Backdrop.current twin.backdrop_eq
  have unbuilt : ({} : Scope).resolved.lookup? implementation = none := rfl
  simp only [Catalog.resolve, new, newThere, unbuilt, current, Bool.false_eq_true, if_false]
  cases t.catalog.current.lookup? implementation with
  | none => exact ⟨rfl, rfl⟩
  | some i =>
    rcases twin.recipe_agrees i with ⟨here, there⟩ | ⟨r, r', here, there, same, steady⟩
    · simp only [Option.bind_some, here, there]
      exact ⟨rfl, rfl⟩
    · have built := Catalog.construct_alike same steady s.catalog t.catalog i
      simp only [Option.bind_some, here, there, Option.map_some]
      constructor
      · split <;> split <;> exact built.built
      · split <;> split <;> exact built.result

/-- What has been built is written down, and counted. -/
theorem afterResolution (twin : m.Twin s t) {r r' : Resolution} (alike : r.Alike r')
    (here : s.catalog.Offers r.catalog) (there : t.catalog.Offers r'.catalog) :
    m.Twin (s.afterResolution r) (t.afterResolution r') := by
  have lines (built : Option (String × Nat)) :
      (built.toList.map fun b => Note.built b.1 b.2).map Note.anonymous =
        (built.map Prod.fst).toList.map (Note.built · 0) := by
    cases built <;> rfl
  have written : (r.built.toList.map fun b => Note.built b.1 b.2).map Note.anonymous =
      (r'.built.toList.map fun b => Note.built b.1 b.2).map Note.anonymous := by
    rw [lines, lines, alike.built]
  exact (twin.notes written).withCatalog here there

end Twin

end Meeting

end TrialRouting
