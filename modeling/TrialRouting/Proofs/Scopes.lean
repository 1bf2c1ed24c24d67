import Mathlib.Logic.Relation
import TrialRouting.State

/-!
# The ledger of scopes

What the shared state knows of scopes: which have been disposed, how many are open, and
the lines that say when each was opened and disposed. Opening a scope and disposing an
open one are the only entries in this ledger; whatever else happens leaves it alone.

Those who open scopes hold them until they dispose them. The ledger is in order if it
counts exactly the scopes that are held, and if its lines about the scopes of one holder
say that each was opened once and disposed once, one after the other. `InOrder.opens` and
`InOrder.disposes` show that holders who only open a scope while they hold none, and only
dispose what they hold, keep it so, whatever the order in which they get their turns.
-/

namespace TrialRouting

/-- The scope a line of the journal opens or disposes. -/
def Note.scope? : Note → Option Nat
  | .scopeOpened n => some n
  | .scopeDisposed n => some n
  | _ => none

/-- Whether a line is about one of the given scopes. -/
def Note.isAbout (scopes : List Nat) (n : Note) : Bool :=
  n.scope?.any (scopes.contains ·)

namespace Catalog

/-- Which scopes have been disposed, in the order in which they were opened. -/
def flags (c : Catalog) : List Bool :=
  c.scopes.map (·.disposed)

/-- How many scopes have been opened and not disposed. -/
def undisposed (c : Catalog) : Nat :=
  c.scopes.countP (!·.disposed)

/-- The scopes without a mark are those that have not been disposed, so that either may be counted
for the other. -/
theorem count_flags (c : Catalog) : c.flags.count false = c.undisposed := by
  have same : ((· == false) ∘ fun scope : Scope => scope.disposed) = (!·.disposed) := by
    funext scope
    cases h : scope.disposed <;> simp [h]
  rw [flags, List.count, List.countP_map, same, undisposed]

theorem length_flags (c : Catalog) : c.flags.length = c.nextScope := by
  rw [flags, List.length_map, nextScope]

/-- A scope that is not open has been disposed: it is in the catalog's list, and its mark is what
the list says about it. -/
theorem disposed_of_not_open {c : Catalog} {id : Nat} {scope : Scope}
    (found : c.scope? id = some scope) (notOpen : c.flags[id]? ≠ some false) :
    scope.disposed = true := by
  have flag : c.flags[id]? = some scope.disposed := by
    rw [flags, List.getElem?_map, ← scope?, found, Option.map_some]
  rw [flag] at notOpen
  simpa using notOpen

/-- An open scope has not been disposed. -/
theorem exists_scope_of_open {c : Catalog} {id : Nat} (isOpen : c.flags[id]? = some false) :
    ∃ scope, c.scope? id = some scope ∧ scope.disposed = false := by
  rw [flags, List.getElem?_map] at isOpen
  exact Option.map_eq_some_iff.mp isOpen

/-- A scope that is not open, or was never opened, is not disposed again. The catalog looks at the
mark first, so that a second disposal is not counted. -/
theorem dispose_of_not_open (c : Catalog) (id : Nat) (notOpen : c.flags[id]? ≠ some false) :
    c.dispose id = c := by
  unfold dispose
  split
  · rfl
  · next scope found => rw [disposed_of_not_open found notOpen, if_pos rfl]

/-- Nor is it counted off when it is dropped. -/
theorem drop_of_not_open (c : Catalog) (id : Nat) (notOpen : c.flags[id]? ≠ some false) :
    c.drop id = c := by
  unfold drop
  split
  · rfl
  · next scope found => rw [disposed_of_not_open found notOpen, if_pos rfl]

/-- Disposing an open scope marks it, and one scope fewer is open. The subtraction is never cut off
at zero where the ledger is in order, since that scope is among those counted. -/
theorem dispose_of_open (c : Catalog) (id : Nat) (isOpen : c.flags[id]? = some false) :
    (c.dispose id).flags = c.flags.set id true ∧
      (c.dispose id).openScopes = c.openScopes - 1 := by
  obtain ⟨scope, found, undisposed⟩ := exists_scope_of_open isOpen
  simp [dispose, found, undisposed, flags, List.map_set]

/-- Dropping an open scope does the same. -/
theorem drop_of_open (c : Catalog) (id : Nat) (isOpen : c.flags[id]? = some false) :
    (c.drop id).flags = c.flags.set id true ∧ (c.drop id).openScopes = c.openScopes - 1 := by
  obtain ⟨scope, found, undisposed⟩ := exists_scope_of_open isOpen
  simp [drop, found, undisposed, flags, List.map_set]

/-- A scope that has been disposed is not open. -/
theorem not_open_dispose (c : Catalog) (id : Nat) : (c.dispose id).flags[id]? ≠ some false := by
  by_cases isOpen : c.flags[id]? = some false
  · have known : id < c.flags.length := (List.getElem?_eq_some_iff.mp isOpen).1
    rw [(c.dispose_of_open id isOpen).1, List.getElem?_set_self known]
    simp
  · rw [c.dispose_of_not_open id isOpen]
    exact isOpen

/-- Disposing a scope a second time changes nothing. -/
theorem dispose_dispose (c : Catalog) (id : Nat) : (c.dispose id).dispose id = c.dispose id :=
  dispose_of_not_open _ id (c.not_open_dispose id)

/-- Nor does dropping it after that. -/
theorem drop_dispose (c : Catalog) (id : Nat) : (c.dispose id).drop id = c.dispose id :=
  drop_of_not_open _ id (c.not_open_dispose id)

/-- A guard that has its scope disposes it, and has it no longer. -/
theorem dispose_holding (c : Catalog) (id : Nat) :
    (ScopeGuard.holding id).dispose c = (c.dispose id, ⟨none⟩) := by
  simp only [ScopeGuard.holding, ScopeGuard.dispose, drop_dispose]

/-- Remembering an instance leaves the marks of all scopes as they are. -/
theorem flags_remember (c : Catalog) (id : Nat) (implementation : String) (made : Instance) :
    (c.remember id implementation made).flags = c.flags := by
  apply List.ext_getElem?
  intro n
  simp only [flags, remember, List.getElem?_map, List.getElem?_modify]
  cases c.scopes[n]? with
  | none => simp
  | some scope => by_cases here : id = n <;> simp [here]

/-- Asking a scope for an implementation opens and disposes nothing. It may construct the
implementation and remember the instance, but the marks and the count stay as they are. -/
theorem scopes_resolve (c : Catalog) (id : Nat) (implementation : String) :
    (c.resolve id implementation).catalog.flags = c.flags ∧
      (c.resolve id implementation).catalog.openScopes = c.openScopes := by
  have constructed (recipe : Nat) (r : Recipe) :
      (c.construct recipe r).catalog.flags = c.flags ∧
        (c.construct recipe r).catalog.openScopes = c.openScopes := by
    unfold construct
    split <;> exact ⟨rfl, rfl⟩
  unfold resolve
  split
  · exact ⟨rfl, rfl⟩
  · split
    · exact ⟨rfl, rfl⟩
    · split
      · exact ⟨rfl, rfl⟩
      · split
        · exact ⟨rfl, rfl⟩
        · next number recipe found =>
          dsimp only
          split
          · exact constructed number recipe
          · exact ⟨(flags_remember _ _ _ _).trans (constructed number recipe).1,
              (constructed number recipe).2⟩

/-- A new scope that is asked for an implementation constructs it: it remembers nothing yet, so that
it has no instance to hand out. -/
theorem result_resolve_openScope {c : Catalog} {name : String} {i : Nat} {recipe : Recipe}
    (current : c.current.lookup? name = some i) (listed : c.recipes[i]? = some recipe) :
    (c.openScope.resolve c.nextScope name).result = (c.openScope.construct i recipe).result := by
  have scope : c.openScope.scope? c.nextScope = some {} := List.getElem?_concat_length
  have found : (c.openScope.current.lookup? name).bind
      (fun i => (c.openScope.recipes[i]?).map (i, ·)) = some (i, recipe) := by
    simp [openScope, current, listed]
  have unresolved : Directory.lookup? ({} : Scope).resolved name = none := rfl
  simp only [resolve, scope, unresolved, found, Bool.false_eq_true, if_false]
  split <;> simp [*]

end Catalog

/-- What the shared state knows of scopes. -/
structure Ledger where
  /-- Which scopes have been disposed, in the order in which they were opened. -/
  flags : List Bool
  /-- How many are said to be open. -/
  count : Nat
  /-- What the journal says about scopes being opened and disposed. -/
  lines : List Note

/-- The ledger of a state. -/
def State.ledger (s : State) : Ledger :=
  ⟨s.catalog.flags, s.catalog.openScopes, s.journal.filter (·.scope?.isSome)⟩

/-- The scopes one holder has disposed and those it holds. -/
structure Holding where
  done : List Nat := []
  held : List Nat := []

namespace Holding

/-- All scopes a holder has opened, in order. -/
def scopes (h : Holding) : List Nat :=
  h.done ++ h.held

/-- The lines about a holder's scopes: each opened, and each but those it holds disposed. -/
def lines (h : Holding) : List Note :=
  h.done.flatMap (fun n => [.scopeOpened n, .scopeDisposed n]) ++ h.held.map .scopeOpened

end Holding

namespace Ledger

/-- The next scope is opened. -/
def opened (l : Ledger) : Ledger :=
  ⟨l.flags ++ [false], l.count + 1, l.lines ++ [.scopeOpened l.flags.length]⟩

/-- An open scope is disposed. -/
def disposed (l : Ledger) (n : Nat) : Ledger :=
  ⟨l.flags.set n true, l.count - 1, l.lines ++ [.scopeDisposed n]⟩

/-- The ledger counts what is held: since the start, every scope that was opened has one
holder, and the journal and the marks agree with what the holders have done. -/
structure InOrder (start l : Ledger) (hs : List Holding) : Prop where
  count : l.count = l.flags.count false
  current : l.count = start.count + (hs.flatMap (·.held)).length
  grown : start.flags.length ≤ l.flags.length
  scopes : (hs.flatMap (·.scopes)).Perm
    (List.range' start.flags.length (l.flags.length - start.flags.length))
  known : ∀ n ∈ l.lines, ∀ m, n.scope? = some m → m < l.flags.length
  lines : ∀ h ∈ hs, l.lines.filter (·.isAbout h.scopes) = h.lines
  held : ∀ h ∈ hs, ∀ n ∈ h.held, l.flags[n]? = some false
  done : ∀ h ∈ hs, ∀ n ∈ h.done, l.flags[n]? = some true

namespace InOrder

variable {start l : Ledger} {hs before after : List Holding} {done : List Nat} {n : Nat}

/-- Before anybody has opened a scope. -/
theorem nil (count : start.count = start.flags.count false)
    (known : ∀ n ∈ start.lines, ∀ m, n.scope? = some m → m < start.flags.length) :
    InOrder start start [] where
  count := count
  current := rfl
  grown := Nat.le_refl _
  scopes := by rw [Nat.sub_self]; exact .nil
  known := known
  lines := fun _ impossible => absurd impossible List.not_mem_nil
  held := fun _ impossible => absurd impossible List.not_mem_nil
  done := fun _ impossible => absurd impossible List.not_mem_nil

/-- A holder that has not opened anything yet joins. It adds nothing to what is held and has no
lines of its own, so that the ledger is in order with it as it was without. -/
theorem joins (order : InOrder start l hs) : InOrder start l (hs ++ [⟨[], []⟩]) := by
  have nothing : l.lines.filter (·.isAbout []) = [] := by
    rw [List.filter_eq_nil_iff]
    intro line _ about
    cases scope : line.scope? <;> simp [Note.isAbout, scope] at about
  refine ⟨order.count, ?_, order.grown, ?_, order.known, ?_, ?_, ?_⟩
  · rw [List.flatMap_append, List.flatMap_singleton, List.append_nil, order.current]
  · rw [List.flatMap_append, List.flatMap_singleton]
    exact (List.append_nil _).symm ▸ order.scopes
  · intro h member
    rcases List.mem_append.mp member with old | new
    · exact order.lines h old
    · rw [List.mem_singleton.mp new]
      exact nothing
  · intro h member
    rcases List.mem_append.mp member with old | new
    · exact order.held h old
    · rw [List.mem_singleton.mp new]
      exact fun _ impossible => absurd impossible List.not_mem_nil
  · intro h member
    rcases List.mem_append.mp member with old | new
    · exact order.done h old
    · rw [List.mem_singleton.mp new]
      exact fun _ impossible => absurd impossible List.not_mem_nil

/-- One holder among the others. -/
theorem mem_middle {h here : Holding} :
    h ∈ before ++ here :: after ↔ h = here ∨ h ∈ before ++ after := by
  simp only [List.mem_append, List.mem_cons, or_left_comm]

/-- Every scope of a holder has been opened. Together the holders have the scopes opened since the
start, and numbers are given in order. -/
theorem scope_lt (order : InOrder start l hs) {h : Holding} (holder : h ∈ hs)
    (member : n ∈ h.scopes) : n < l.flags.length := by
  have listed : n ∈ hs.flatMap (·.scopes) := List.mem_flatMap.mpr ⟨h, holder, member⟩
  have bounds := List.mem_range'_1.mp (order.scopes.mem_iff.mp listed)
  have grown := order.grown
  omega

/-- No scope has two holders. The scopes of all holders together are a range of numbers, in which
none comes twice. -/
theorem not_mem_of_other {h other : Holding}
    (order : InOrder start l (before ++ h :: after)) (different : other ∈ before ++ after)
    (member : n ∈ h.scopes) : n ∉ other.scopes := by
  have distinct : ((before ++ h :: after).flatMap (·.scopes)).Nodup :=
    order.scopes.nodup_iff.mpr List.nodup_range'
  simp only [List.flatMap_append, List.flatMap_cons] at distinct
  intro shared
  rcases List.mem_append.mp different with early | late
  · exact (List.nodup_append.mp distinct).2.2 n
      (List.mem_flatMap.mpr ⟨other, early, shared⟩) n (List.mem_append_left _ member) rfl
  · exact (List.nodup_append.mp (List.nodup_append.mp distinct).2.1).2.2 n member n
      (List.mem_flatMap.mpr ⟨other, late, shared⟩) rfl

/-- A line about a scope that has not been opened is about no holder's. So what one of them writes
leaves the lines about the others as they are. -/
theorem filter_concat_of_not_mem {line : Note} {scopes : List Nat} (about : line.scope? = some n)
    (foreign : n ∉ scopes) (lines : List Note) :
    (lines ++ [line]).filter (·.isAbout scopes) = lines.filter (·.isAbout scopes) := by
  rw [List.filter_append]
  simp [Note.isAbout, about, foreign]

/-- A line about one of a holder's scopes is among its lines. -/
theorem filter_concat_of_mem {line : Note} {scopes : List Nat} (about : line.scope? = some n)
    (own : n ∈ scopes) (lines : List Note) :
    (lines ++ [line]).filter (·.isAbout scopes) = lines.filter (·.isAbout scopes) ++ [line] := by
  rw [List.filter_append]
  simp [Note.isAbout, about, own]

/-- The scopes of all holders after one of them has opened the next one. -/
theorem scopes_of_opens {first count : Nat}
    (scopes : ((before ++ ⟨done, []⟩ :: after).flatMap (·.scopes)).Perm
      (List.range' first count)) :
    ((before ++ ⟨done, [first + count]⟩ :: after).flatMap (·.scopes)).Perm
      (List.range' first (count + 1)) := by
  rw [List.range'_1_concat]
  refine List.Perm.trans ?_ (scopes.append_right _)
  rw [List.perm_iff_count]
  intro m
  simp only [Holding.scopes, List.flatMap_append, List.flatMap_cons, List.count_append,
    List.count_nil]
  omega

/-- The lines of a holder after it has opened the next scope. What was written before cannot have
been about that scope, whose number is new; so only the new line is added. -/
theorem lines_of_opens (order : InOrder start l (before ++ ⟨done, []⟩ :: after)) :
    l.opened.lines.filter (·.isAbout (Holding.scopes ⟨done, [l.flags.length]⟩)) =
      Holding.lines ⟨done, [l.flags.length]⟩ := by
  have unopened : l.lines.filter (·.isAbout (done ++ [l.flags.length])) =
      l.lines.filter (·.isAbout (done ++ [])) := by
    refine List.filter_congr fun line listed => ?_
    cases scope : line.scope? with
    | none => simp [Note.isAbout, scope]
    | some m =>
      have old : m ≠ l.flags.length := Nat.ne_of_lt (order.known line listed m scope)
      simp [Note.isAbout, scope, old]
  have lines := order.lines _ (mem_middle.mpr (.inl rfl))
  rw [Ledger.opened, filter_concat_of_mem (n := l.flags.length) rfl (by simp [Holding.scopes])]
  simp only [Holding.scopes, Holding.lines, List.map_nil, List.append_nil] at unopened lines ⊢
  rw [unopened, lines]
  rfl

/-- The lines of a holder after it has disposed the scope it holds. -/
theorem lines_of_disposes (order : InOrder start l (before ++ ⟨done, [n]⟩ :: after)) :
    (l.disposed n).lines.filter (·.isAbout (Holding.scopes ⟨done ++ [n], []⟩)) =
      Holding.lines ⟨done ++ [n], []⟩ := by
  have lines := order.lines _ (mem_middle.mpr (.inl rfl))
  rw [Ledger.disposed, filter_concat_of_mem (n := n) rfl (by simp [Holding.scopes])]
  simp only [Holding.scopes, Holding.lines, List.append_nil] at lines ⊢
  rw [lines]
  simp

/-- A holder that holds nothing opens the next scope, and the ledger is in order again. The new
number is larger than all before it, so that no other holder has it and no line so far is about it;
the count and the list of marks grow by the same one scope. -/
theorem opens (order : InOrder start l (before ++ ⟨done, []⟩ :: after)) :
    InOrder start l.opened (before ++ ⟨done, [l.flags.length]⟩ :: after) := by
  have others {h : Holding} (member : h ∈ before ++ after) : h ∈ before ++ ⟨done, []⟩ :: after :=
    mem_middle.mpr (.inr member)
  have own : (⟨done, []⟩ : Holding) ∈ before ++ ⟨done, []⟩ :: after :=
    mem_middle.mpr (.inl rfl)
  have kept {m : Nat} {b : Bool} (flag : l.flags[m]? = some b) :
      (l.flags ++ [false])[m]? = some b :=
    (List.getElem?_append_left (List.getElem?_eq_some_iff.mp flag).1).trans flag
  refine ⟨?_, ?_, ?_, ?_, ?_, ?_, ?_, ?_⟩
  · simp only [Ledger.opened, List.count_append, order.count]
    rfl
  · have current := order.current
    simp only [List.flatMap_append, List.flatMap_cons, List.length_append, List.length_nil,
      List.length_singleton, Ledger.opened] at current ⊢
    omega
  · have grown := order.grown
    simp only [Ledger.opened, List.length_append]
    omega
  · have scopes := scopes_of_opens order.scopes
    rw [Nat.add_sub_cancel' order.grown] at scopes
    simpa only [Ledger.opened, List.length_append, List.length_singleton,
      Nat.sub_add_comm order.grown] using scopes
  · intro line member m about
    simp only [Ledger.opened, List.length_append, List.length_singleton] at member ⊢
    rcases List.mem_append.mp member with old | new
    · exact Nat.lt_succ_of_lt (order.known line old m about)
    · rw [List.mem_singleton.mp new] at about
      cases about
      exact Nat.lt_succ_self _
  · intro h member
    rcases mem_middle.mp member with rfl | other
    · exact order.lines_of_opens
    · rw [Ledger.opened, filter_concat_of_not_mem (n := l.flags.length) rfl]
      · exact order.lines h (others other)
      · exact fun shared => Nat.lt_irrefl _ (order.scope_lt (others other) shared)
  · intro h member m holding
    rcases mem_middle.mp member with rfl | other
    · rw [List.mem_singleton.mp holding]
      simp [Ledger.opened]
    · exact kept (order.held h (others other) m holding)
  · intro h member m finished
    rcases mem_middle.mp member with rfl | other
    · exact kept (order.done _ own m finished)
    · exact kept (order.done h (others other) m finished)

/-- A holder disposes the scope it holds, and the ledger is in order again. The mark of that scope
is the only one to change, and it was open; so one fewer is counted, one fewer is held, and the
scopes of the others are as they were. -/
theorem disposes (order : InOrder start l (before ++ ⟨done, [n]⟩ :: after)) :
    InOrder start (l.disposed n) (before ++ ⟨done ++ [n], []⟩ :: after) := by
  have own : (⟨done, [n]⟩ : Holding) ∈ before ++ ⟨done, [n]⟩ :: after := mem_middle.mpr (.inl rfl)
  have others {h : Holding} (member : h ∈ before ++ after) :
      h ∈ before ++ ⟨done, [n]⟩ :: after := mem_middle.mpr (.inr member)
  have mine : n ∈ (⟨done, [n]⟩ : Holding).scopes := by simp [Holding.scopes]
  have isOpen : l.flags[n]? = some false := order.held _ own n List.mem_cons_self
  have known : n < l.flags.length := order.scope_lt own mine
  have kept {m : Nat} {b : Bool} (flag : l.flags[m]? = some b) (different : m ≠ n) :
      (l.flags.set n true)[m]? = some b :=
    (List.getElem?_set_ne (Ne.symm different)).trans flag
  have current := order.current
  simp only [List.flatMap_append, List.flatMap_cons, List.length_append,
    List.length_singleton] at current
  refine ⟨?_, ?_, ?_, ?_, ?_, ?_, ?_, ?_⟩
  · have flag : l.flags[n] = false :=
      Option.some.inj ((List.getElem?_eq_getElem known).symm.trans isOpen)
    simp only [Ledger.disposed, List.count_set known, flag, order.count]
    rfl
  · simp only [Ledger.disposed, List.flatMap_append, List.flatMap_cons, List.length_append,
      List.length_nil]
    omega
  · simpa only [Ledger.disposed, List.length_set] using order.grown
  · simpa only [Ledger.disposed, List.length_set, List.flatMap_append, List.flatMap_cons,
      Holding.scopes, List.append_nil] using order.scopes
  · intro line member m about
    simp only [Ledger.disposed, List.length_set] at member ⊢
    rcases List.mem_append.mp member with old | new
    · exact order.known line old m about
    · rw [List.mem_singleton.mp new] at about
      cases about
      exact known
  · intro h member
    rcases mem_middle.mp member with rfl | other
    · exact order.lines_of_disposes
    · rw [Ledger.disposed, filter_concat_of_not_mem (n := n) rfl]
      · exact order.lines h (others other)
      · exact order.not_mem_of_other other mine
  · intro h member m holding
    rcases mem_middle.mp member with rfl | other
    · exact absurd holding List.not_mem_nil
    · refine kept (order.held h (others other) m holding) ?_
      rintro rfl
      exact order.not_mem_of_other other mine (List.mem_append_right _ holding)
  · intro h member m finished
    rcases mem_middle.mp member with rfl | other
    · rcases List.mem_append.mp finished with old | last
      · refine kept (order.done _ own m old) ?_
        rintro rfl
        have closed : l.flags[m]? = some true := order.done _ own m old
        rw [isOpen] at closed
        cases closed
      · rw [List.mem_singleton.mp last]
        exact List.getElem?_set_self known
    · refine kept (order.done h (others other) m finished) ?_
      rintro rfl
      exact order.not_mem_of_other other mine (List.mem_append_left _ finished)

end InOrder

/-- What one holder does to the ledger in a turn: it opens the next scope while it holds none,
or disposes the scope it holds. -/
inductive Turn : Ledger × Holding → Ledger × Holding → Prop where
  | opens (l : Ledger) (done : List Nat) :
      Turn (l, ⟨done, []⟩) (l.opened, ⟨done, [l.flags.length]⟩)
  | disposes (l : Ledger) (done : List Nat) (n : Nat) (isOpen : l.flags[n]? = some false) :
      Turn (l, ⟨done, [n]⟩) (l.disposed n, ⟨done ++ [n], []⟩)

/-- A sequence of turns of one holder. -/
abbrev Turns : Ledger × Holding → Ledger × Holding → Prop :=
  Relation.ReflTransGen Turn

/-- The turns of one holder keep the ledger in order, with the others taking none meanwhile. The
induction follows the turns: each of them opens a scope or disposes one, and both keep the order. -/
theorem Turns.inOrder {start : Ledger} {before after : List Holding} {a b : Ledger × Holding}
    (turns : Turns a b) (order : InOrder start a.1 (before ++ a.2 :: after)) :
    InOrder start b.1 (before ++ b.2 :: after) := by
  induction turns with
  | refl => exact order
  | tail _ turn ih =>
    cases turn with
    | opens l done => exact ih.opens
    | disposes l done n isOpen => exact ih.disposes

end Ledger

namespace State

variable {s s' : State}

/-- Lines that are not about scopes, and a catalog whose scopes are the same, leave the ledger
alone. Most of what happens in a call is of this kind. -/
theorem ledger_eq (flags : s'.catalog.flags = s.catalog.flags)
    (count : s'.catalog.openScopes = s.catalog.openScopes) (lines : List Note)
    (journal : s'.journal = s.journal ++ lines) (others : ∀ n ∈ lines, n.scope? = none) :
    s'.ledger = s.ledger := by
  have nothing : lines.filter (·.scope?.isSome) = [] := by
    rw [List.filter_eq_nil_iff]
    intro n member
    rw [others n member]
    exact Bool.false_ne_true
  rw [ledger, flags, count, journal, List.filter_append, nothing, List.append_nil, ledger]

/-- A scope is opened. -/
theorem ledger_openScope (s : State) : s.openScope.ledger = s.ledger.opened := by
  have line : (s.journal ++ [Note.scopeOpened s.catalog.nextScope]).filter (·.scope?.isSome) =
      s.journal.filter (·.scope?.isSome) ++ [.scopeOpened s.catalog.flags.length] := by
    rw [List.filter_append, s.catalog.length_flags]
    rfl
  have flags : s.catalog.openScope.flags = s.catalog.flags ++ [false] := by
    simp [Catalog.flags, Catalog.openScope]
  simp only [ledger, openScope, note, Ledger.opened, line, flags]
  rfl

/-- A guard that has its scope leaves a line and disposes the scope. -/
theorem dropGuard_holding (s : State) (id : Nat) : s.dropGuard (.holding id) =
    { s.note (.scopeDisposed id) with catalog := s.catalog.dispose id } := by
  have disposal := s.catalog.dispose_holding id
  simp only [ScopeGuard.holding] at disposal
  simp only [dropGuard, disposeGuard, ScopeGuard.holding, note, disposal]

/-- Once a guard has disposed its scope, disposing or dropping the guard changes nothing. It no
longer has the scope then, and who has none has nothing to dispose. -/
theorem disposeGuard_disposeGuard (s : State) (guard : ScopeGuard) :
    (s.disposeGuard guard).1.disposeGuard (s.disposeGuard guard).2 = s.disposeGuard guard := by
  obtain ⟨held⟩ := guard
  cases held <;> rfl

/-- An open scope is disposed by its guard, with one line in the journal that says so. -/
theorem ledger_dropGuard {id : Nat} (isOpen : s.ledger.flags[id]? = some false) :
    (s.dropGuard (.holding id)).ledger = s.ledger.disposed id := by
  obtain ⟨flags, count⟩ := s.catalog.dispose_of_open id isOpen
  have line : (s.journal ++ [Note.scopeDisposed id]).filter (·.scope?.isSome) =
      s.journal.filter (·.scope?.isSome) ++ [.scopeDisposed id] := by
    rw [List.filter_append]
    rfl
  rw [dropGuard_holding]
  simp only [ledger, note, Ledger.disposed, line, flags, count]

end State

end TrialRouting
