import TrialRouting.Proofs.TrialKeys

/-!
# How a key is selected

A trial is active inside its window, for the calls that its predicate accepts. An active
trial asks its mode, and a trial key that the mode names is the selected key; in every other
case the default key is selected, and its source says why. `Selection.Follows` is this rule,
and choosing a key follows it.

Choosing is also a program that asks: first the predicate, then the mode. Here it is written
down for questions with any effect. Without an effect it gives the selection, and with
questions that are listed it gives the list of them.
-/

namespace TrialRouting

namespace Window

variable {w : Window} {now : UInt64}

/-- An instant is in a window if it is not before its start and not after its end. -/
def Contains (w : Window) (now : UInt64) : Prop :=
  (∀ start, w.start = some start → start ≤ now) ∧ ∀ finish, w.finish = some finish → now ≤ finish

/-- An instant is before a window if the window has a start and that is still to come. -/
def Precedes (now : UInt64) (w : Window) : Prop :=
  ∃ start, w.start = some start ∧ now < start

/-- An instant is after a window if the window has an end and that has passed. -/
def Succeeds (now : UInt64) (w : Window) : Prop :=
  ∃ finish, w.finish = some finish ∧ finish < now

/-- A window whose start is still to come is violated there, whatever its end is. -/
theorem violation?_of_precedes (before : Precedes now w) :
    w.violation? now = some .beforeStart := by
  obtain ⟨start, set, early⟩ := before
  simp [violation?, set, early]

/-- A window that has started and has ended is violated at its end. The start is looked at first, so
that of a window that violates both the start is reported. -/
theorem violation?_of_succeeds (begun : ¬ Precedes now w) (after : Succeeds now w) :
    w.violation? now = some .afterEnd := by
  obtain ⟨finish, set, late⟩ := after
  have started : w.start.any (now < ·) = false := by
    cases known : w.start with
    | none => rfl
    | some start => exact decide_eq_false fun early => begun ⟨start, known, early⟩
  simp [violation?, started, set, late]

/-- A window is not violated inside. -/
theorem violation?_of_contains (inside : w.Contains now) : w.violation? now = none := by
  obtain ⟨begun, ongoing⟩ := inside
  have started : w.start.any (now < ·) = false := by
    cases known : w.start with
    | none => rfl
    | some start => exact decide_eq_false (UInt64.not_lt.mpr (begun start known))
  have unfinished : w.finish.any (· < now) = false := by
    cases known : w.finish with
    | none => rfl
    | some finish => exact decide_eq_false (UInt64.not_lt.mpr (ongoing finish known))
  simp [violation?, started, unfinished]

/-- An instant is in a window, before it or after it. These are the three cases in which the window
is looked at, and the last two exclude each other by their order. -/
theorem contains_or (w : Window) (now : UInt64) :
    w.Contains now ∨ Precedes now w ∨ (¬ Precedes now w ∧ Succeeds now w) := by
  by_cases before : Precedes now w
  · exact .inr (.inl before)
  · by_cases after : Succeeds now w
    · exact .inr (.inr ⟨before, after⟩)
    · left
      constructor
      · intro start set
        exact UInt64.not_lt.mp fun early => before ⟨start, set, early⟩
      · intro finish set
        exact UInt64.not_lt.mp fun late => after ⟨finish, set, late⟩

/-- Exactly inside it a window is not violated. -/
theorem violation?_eq_none_iff : w.violation? now = none ↔ w.Contains now := by
  constructor
  · intro unviolated
    rcases w.contains_or now with inside | before | ⟨begun, after⟩
    · exact inside
    · simp [violation?_of_precedes before] at unviolated
    · simp [violation?_of_succeeds begun after] at unviolated
  · exact violation?_of_contains

instance (w : Window) (now : UInt64) : Decidable (w.Contains now) :=
  decidable_of_iff _ violation?_eq_none_iff

end Window

namespace Registration

variable {r : Registration} {method : String} {now : UInt64}

/-- A trial takes part in a call inside its window, if its predicate accepts the call. -/
def IsActive (r : Registration) (method : String) (now : UInt64) : Prop :=
  r.window.Contains now ∧ ∀ p, r.predicate = some p → p (r.moment method now) = true

/-- A trial takes no part in a call for the first of these reasons: its window has not
started, its window has ended, its predicate rejects the call. -/
def IsInactive (r : Registration) (method : String) (now : UInt64) : InactiveReason → Prop
  | .beforeStart => Window.Precedes now r.window
  | .afterEnd => ¬ Window.Precedes now r.window ∧ Window.Succeeds now r.window
  | .predicateRejected => r.window.Contains now ∧
      ∃ p, r.predicate = some p ∧ p (r.moment method now) = false

/-- A reason of a trial to take no part is the one that the gate gives. The window comes before the
predicate, which is not asked at all outside. -/
theorem inactive?_of_isInactive {reason : InactiveReason}
    (inactive : r.IsInactive method now reason) :
    r.inactive? method now = some reason := by
  cases reason with
  | beforeStart => simp only [inactive?, Window.violation?_of_precedes inactive]
  | afterEnd => simp only [inactive?, Window.violation?_of_succeeds inactive.1 inactive.2]
  | predicateRejected =>
    obtain ⟨inside, p, set, rejects⟩ := inactive
    simp [inactive?, Window.violation?_of_contains inside, set, rejects]

/-- The gate lets an active trial through. -/
theorem inactive?_of_isActive (active : r.IsActive method now) : r.inactive? method now = none := by
  obtain ⟨inside, accepts⟩ := active
  cases set : r.predicate with
  | none => simp [inactive?, Window.violation?_of_contains inside, set]
  | some p => simp [inactive?, Window.violation?_of_contains inside, set, accepts p set]

/-- A trial that has a reason not to be active is not. -/
theorem not_isActive {reason : InactiveReason} (inactive : r.IsInactive method now reason) :
    ¬ r.IsActive method now := by
  intro active
  have closed := inactive?_of_isInactive inactive
  simp [inactive?_of_isActive active] at closed

/-- A trial is active, or it has a reason not to be. So the rule can be stated by cases, without a
look at how the gate finds its answer. -/
theorem isActive_or (r : Registration) (method : String) (now : UInt64) :
    r.IsActive method now ∨ ∃ reason, r.IsInactive method now reason := by
  rcases r.window.contains_or now with inside | before | after
  · cases set : r.predicate with
    | none => exact .inl ⟨inside, fun p impossible => by simp [set] at impossible⟩
    | some p =>
      cases answer : p (r.moment method now) with
      | true =>
        refine .inl ⟨inside, fun q same => ?_⟩
        obtain rfl : p = q := Option.some.inj (set.symm.trans same)
        exact answer
      | false => exact .inr ⟨.predicateRejected, inside, p, set, answer⟩
  · exact .inr ⟨.beforeStart, before⟩
  · exact .inr ⟨.afterEnd, after⟩

/-- The gate is closed for a reason exactly if the trial is inactive for it. One direction computes
the gate; the other is that a trial cannot be inactive for two reasons, as the gate gives only
one. -/
theorem inactive?_eq_some_iff {reason : InactiveReason} :
    r.inactive? method now = some reason ↔ r.IsInactive method now reason := by
  constructor
  · intro closed
    rcases r.isActive_or method now with active | ⟨other, inactive⟩
    · simp [inactive?_of_isActive active] at closed
    · obtain rfl : other = reason :=
        Option.some.inj ((inactive?_of_isInactive inactive).symm.trans closed)
      exact inactive
  · exact inactive?_of_isInactive

/-- The gate is open exactly for an active trial, since it gives a reason to every other. -/
theorem inactive?_eq_none_iff : r.inactive? method now = none ↔ r.IsActive method now := by
  constructor
  · intro passed
    rcases r.isActive_or method now with active | ⟨reason, inactive⟩
    · exact active
    · simp [inactive?_of_isInactive inactive] at passed
  · exact inactive?_of_isActive

instance (r : Registration) (method : String) (now : UInt64) : Decidable (r.IsActive method now) :=
  decidable_of_iff _ inactive?_eq_none_iff

/-- The predicate is asked inside the window and nowhere else. -/
theorem predicateCalls_eq (r : Registration) (now : UInt64) :
    r.predicateCalls now = if r.window.Contains now ∧ r.predicate.isSome = true then 1 else 0 := by
  by_cases inside : r.window.Contains now
  · cases set : r.predicate <;>
      simp [predicateCalls, Window.violation?_of_contains inside, inside, set]
  · cases violated : r.window.violation? now with
    | none => exact absurd (Window.violation?_eq_none_iff.mp violated) inside
    | some reason => simp [predicateCalls, violated, inside]

end Registration

/-! ### The rule -/

/-- The selection for a method of a trial that follows from the modes, their sources and the
clock of a state. -/
structure Selection.Follows (r : Registration) (s : State) (method : String)
    (selection : Selection) : Prop where
  /-- The key of the primary attempt is a trial key. -/
  listed : selection.key ∈ r.keys
  /-- It comes from the mode exactly if the trial is active, its mode is registered, and the
  mode names a trial key, which is the selected one then. -/
  provided : ∀ key, selection = ⟨key, .provider⟩ ↔ r.IsActive method s.wallClock ∧
    ∃ mode, s.selector.mode? r.mode = some mode ∧
      s.selector.opinion r method mode = .ok (some key) ∧ key ∈ r.keys
  /-- Any other key is the default key. -/
  byDefault : selection.source ≠ .provider → selection.key = r.defaultKey
  /-- The source of the default key says why an inactive trial is so. -/
  inactive : ∀ reason, selection.source = .inactive reason ↔
    r.IsInactive method s.wallClock reason

namespace Selection

variable {r : Registration} {s : State} {method : String}

/-- The selection of an inactive trial follows the rule: it is the default key, with the reason as
its source, and no mode has been asked for it. -/
theorem follows_inactive (valid : r.Valid) {reason : InactiveReason}
    (inactive : r.IsInactive method s.wallClock reason) :
    Follows r s method (.inactive r reason) := by
  constructor
  · exact valid.byDefault
  · intro key
    constructor
    · intro impossible
      cases congrArg Selection.source impossible
    · rintro ⟨active, -⟩
      exact absurd active (Registration.not_isActive inactive)
  · exact fun _ => rfl
  · intro other
    rw [← Registration.inactive?_eq_some_iff, Registration.inactive?_of_isInactive inactive]
    simp [Selection.inactive, byDefault]

/-- The default key of an active trial whose mode names no trial key follows the rule. A mode that
is not registered names nothing, and so does one that fails or that has no opinion. -/
theorem follows_byDefault (valid : r.Valid) (active : r.IsActive method s.wallClock)
    (unnamed : ∀ mode key, s.selector.mode? r.mode = some mode →
      s.selector.opinion r method mode = .ok (some key) → key ∉ r.keys) :
    Follows r s method (.byDefault r .default) := by
  constructor
  · exact valid.byDefault
  · intro key
    constructor
    · intro impossible
      cases congrArg Selection.source impossible
    · rintro ⟨-, mode, registered, named, listed⟩
      exact absurd listed (unnamed mode key registered named)
  · exact fun _ => rfl
  · intro reason
    rw [← Registration.inactive?_eq_some_iff, Registration.inactive?_of_isActive active]
    simp [byDefault]

/-- The selection of an active trial after its mode has been asked follows the rule. Whether it
comes from the mode can be read off the opinion: exactly if that names a key of the trial. -/
theorem follows_ofOpinion (valid : r.Valid) (active : r.IsActive method s.wallClock) {mode : Mode}
    (registered : s.selector.mode? r.mode = some mode) :
    Follows r s method (.ofOpinion r (s.selector.opinion r method mode)) := by
  have unnamed (other : ∀ key, s.selector.opinion r method mode = .ok (some key) → key ∉ r.keys) :
      Follows r s method (.byDefault r .default) := by
    refine follows_byDefault valid active fun mode' key known => ?_
    obtain rfl : mode = mode' := Option.some.inj (registered.symm.trans known)
    exact other key
  cases answer : s.selector.opinion r method mode with
  | error e => exact unnamed fun key named => by simp [answer] at named
  | ok answered =>
    cases answered with
    | none => exact unnamed fun key named => by simp [answer] at named
    | some key =>
      simp only [ofOpinion]
      split
      · next listed =>
        have member : key ∈ r.keys := List.contains_iff_mem.mp listed
        constructor
        · exact member
        · intro other
          constructor
          · rintro ⟨⟩
            exact ⟨active, mode, registered, answer, member⟩
          · rintro ⟨-, mode', known, named, -⟩
            obtain rfl : mode = mode' := Option.some.inj (registered.symm.trans known)
            rw [answer, Except.ok.injEq, Option.some.injEq] at named
            rw [named]
        · exact fun impossible => absurd rfl impossible
        · intro reason
          rw [← Registration.inactive?_eq_some_iff, Registration.inactive?_of_isActive active]
          simp
      · next unlisted =>
        refine unnamed fun other named => ?_
        rw [answer, Except.ok.injEq, Option.some.injEq] at named
        exact named ▸ fun listed => unlisted (List.contains_iff_mem.mpr listed)

end Selection

namespace Asked

/-- The selection that asking for a key comes to. -/
def selection (r : Registration) : Asked → Selection
  | .settled selection => selection
  | .waiting _ opinion => .ofOpinion r opinion

end Asked

namespace State

variable {r : Registration} {s : State} {method : String}

/-- An inactive trial selects its default key. -/
theorem selection_choose_of_inactive {reason : InactiveReason}
    (inactive : r.IsInactive method s.wallClock reason) :
    (s.choose r method).2.selection r = .inactive r reason := by
  simp only [choose, Registration.inactive?_of_isInactive inactive, Asked.selection]

/-- An active trial whose mode is not registered selects its default key, and asks nobody. -/
theorem selection_choose_of_unregistered (active : r.IsActive method s.wallClock)
    (unregistered : s.selector.mode? r.mode = none) :
    (s.choose r method).2.selection r = .byDefault r .default := by
  have gated : (s.afterGate (r.predicateCalls s.wallClock)).selector.mode? r.mode = none :=
    unregistered
  simp only [choose, Registration.inactive?_of_isActive active, ask, gated, Asked.selection]

/-- Any other trial selects what its mode's opinion makes of the key. -/
theorem selection_choose_of_registered (active : r.IsActive method s.wallClock) {mode : Mode}
    (registered : s.selector.mode? r.mode = some mode) :
    (s.choose r method).2.selection r = .ofOpinion r (s.selector.opinion r method mode) := by
  have gated : (s.afterGate (r.predicateCalls s.wallClock)).selector.mode? r.mode = some mode :=
    registered
  simp only [choose, Registration.inactive?_of_isActive active, ask, gated]
  split
  · rfl
  · rfl

/-- Choosing a key follows the rule, however long the mode takes to answer. The cases are those of
the gate and of the registry of modes; a mode that waits has its opinion all the same, and only
gives it later. -/
theorem follows_choose (valid : r.Valid) (s : State) (method : String) :
    Selection.Follows r s method ((s.choose r method).2.selection r) := by
  rcases r.isActive_or method s.wallClock with active | ⟨reason, inactive⟩
  · cases registered : s.selector.mode? r.mode with
    | none =>
      rw [selection_choose_of_unregistered active registered]
      refine Selection.follows_byDefault valid active fun mode key known => ?_
      simp [registered] at known
    | some mode =>
      rw [selection_choose_of_registered active registered]
      exact Selection.follows_ofOpinion valid active registered
  · rw [selection_choose_of_inactive inactive]
    exact Selection.follows_inactive valid inactive

end State

/-! ### Asking as a program -/

/-- A question that a selection asks. -/
inductive Consultation where
  /-- Whether the trial is active. -/
  | predicate (moment : Moment)
  /-- Which key the trial's mode names. -/
  | mode (mode : Mode)

namespace Consultation

/-- The moment that a predicate is asked about. -/
def moment? : Consultation → Option Moment
  | predicate moment => some moment
  | mode _ => none

/-- The mode that is asked. -/
def mode? : Consultation → Option Mode
  | predicate _ => none
  | mode asked => some asked

/-- An answer with its question put on the list. -/
def listed {α : Type} (question : Consultation) (answer : α) : StateM (List Consultation) α :=
  fun questions => (answer, questions ++ [question])

variable {α β : Type} (before : List Consultation)

/-- Who asks nothing keeps the list as it is. -/
theorem pure_apply (a : α) : (pure a : StateM (List Consultation) α) before = (a, before) :=
  rfl

/-- The list is handed on from one question to the next. -/
theorem bind_apply (first : StateM (List Consultation) α)
    (rest : α → StateM (List Consultation) β) :
    (first >>= rest) before = rest (first before).1 (first before).2 :=
  rfl

end Consultation

namespace Registration

section Programs

variable {m : Type → Type} [Monad m]

/-- The activation gate with the predicate asked by a given program. -/
def gateBy (r : Registration) (accepts : Predicate → Moment → m Bool) (method : String)
    (now : UInt64) : m (Option InactiveReason) :=
  match r.window.violation? now, r.predicate with
  | some reason, _ => pure (some reason)
  | none, none => pure none
  | none, some p => do
      if ← accepts p (r.moment method now) then pure none else pure (some .predicateRejected)

/-- Choosing a key with the predicate and the mode asked by given programs. -/
def selectBy (r : Registration) (accepts : Predicate → Moment → m Bool) (answers : Mode → m Opinion)
    (mode? : Option Mode) (method : String) (now : UInt64) : m Selection := do
  match ← r.gateBy accepts method now, mode? with
  | some reason, _ => pure (.inactive r reason)
  | none, none => pure (.byDefault r .default)
  | none, some mode => do
      let opinion ← answers mode
      pure (.ofOpinion r opinion)

end Programs

/-- A selection from a state, with the questions that are asked for it in their order. -/
def consult (r : Registration) (s : State) (method : String) : Selection × List Consultation :=
  r.selectBy (fun p moment => Consultation.listed (.predicate moment) (p moment))
    (fun mode => Consultation.listed (.mode mode) (s.selector.opinion r method mode))
    (s.selector.mode? r.mode) method s.wallClock []

/-- The gate asks the predicate once inside the window, and not at all outside. This is the gate of
a program with effects, and its answer is the one of the gate without. -/
theorem gateBy_listed (r : Registration) (method : String) (now : UInt64)
    (before : List Consultation) :
    r.gateBy (fun p moment => Consultation.listed (.predicate moment) (p moment))
      method now before =
      (r.inactive? method now, before ++
        if r.window.Contains now then
          (r.predicate.map fun _ => .predicate (r.moment method now)).toList else []) := by
  by_cases inside : r.window.Contains now
  · have unviolated := Window.violation?_of_contains inside
    cases set : r.predicate with
    | none =>
      simp only [gateBy, inactive?, unviolated, set, inside, if_true, Option.map_none,
        Option.toList_none, List.append_nil]
      rfl
    | some p =>
      simp only [gateBy, inactive?, unviolated, set, inside, if_true, Option.map_some,
        Option.toList_some]
      cases p (r.moment method now) <;>
        simp [Consultation.bind_apply, Consultation.pure_apply, Consultation.listed]
  · cases violated : r.window.violation? now with
    | none => exact absurd (Window.violation?_eq_none_iff.mp violated) inside
    | some reason =>
      simp only [gateBy, inactive?, violated, inside, if_false, List.append_nil]
      rfl

/-- The questions of a selection in their order: one to the predicate, inside the window, and
one to the mode of an active trial, if it is registered. -/
def questions (r : Registration) (s : State) (method : String) : List Consultation :=
  (if r.window.Contains s.wallClock then
    (r.predicate.map fun _ => .predicate (r.moment method s.wallClock)).toList else [])
  ++ if r.IsActive method s.wallClock then ((s.selector.mode? r.mode).map .mode).toList else []

/-- The predicate is asked once about the moment of the call inside the window, and not at all
outside. -/
theorem moments_questions (r : Registration) (s : State) (method : String) :
    (r.questions s method).filterMap (·.moment?) = if r.window.Contains s.wallClock then
      (r.predicate.map fun _ => r.moment method s.wallClock).toList else [] := by
  rw [questions, List.filterMap_append]
  by_cases active : r.IsActive method s.wallClock <;>
    by_cases inside : r.window.Contains s.wallClock <;>
      cases r.predicate <;> simp [active, inside, Consultation.moment?]

/-- The mode of an active trial is asked once if it is registered, and no mode is otherwise. A trial
that is not active asks no mode, so that a mode with a memory does not notice it. -/
theorem modes_questions (r : Registration) (s : State) (method : String) :
    (r.questions s method).filterMap (·.mode?) = if r.IsActive method s.wallClock then
      (s.selector.mode? r.mode).toList else [] := by
  rw [questions, List.filterMap_append]
  by_cases active : r.IsActive method s.wallClock <;>
    by_cases inside : r.window.Contains s.wallClock <;>
      cases s.selector.mode? r.mode <;> simp [active, inside, Consultation.mode?]

/-- The selection that comes of asking is the one that is chosen, and nothing else is asked. So the
choice, which is a function of the state, may stand for the program that asks: the questions are
those of the rule, in their order. -/
theorem consult_eq (r : Registration) (s : State) (method : String) :
    r.consult s method = ((s.choose r method).2.selection r, r.questions s method) := by
  have gate := r.gateBy_listed method s.wallClock []
  rcases r.isActive_or method s.wallClock with active | ⟨reason, inactive⟩
  · rw [inactive?_of_isActive active] at gate
    cases registered : s.selector.mode? r.mode with
    | none =>
      rw [State.selection_choose_of_unregistered active registered]
      simp only [consult, selectBy, Consultation.bind_apply, gate, questions, registered, active,
        if_true]
      simp [Consultation.pure_apply]
    | some mode =>
      rw [State.selection_choose_of_registered active registered]
      simp only [consult, selectBy, Consultation.bind_apply, gate, questions, registered, active,
        if_true]
      simp [Consultation.pure_apply, Consultation.listed]
  · have passive := not_isActive inactive
    rw [inactive?_of_isInactive inactive] at gate
    rw [State.selection_choose_of_inactive inactive]
    simp only [consult, selectBy, Consultation.bind_apply, gate, questions, passive, if_false,
      List.append_nil]
    simp [Consultation.pure_apply]

end Registration

end TrialRouting
