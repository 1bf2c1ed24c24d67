import TrialRouting.Proofs.Overlap.Turns

/-!
# A call in a crowd

Every token is held by one call, which is named by its caller's token, and what a call does
only cancels tokens that it holds and new ones. So whatever others do in turn leaves the tokens
of a call, the backdrop and the clock as they are: a call in a crowd keeps matching the same call
in a run of its own, and one that is idle stays so.
-/

namespace TrialRouting

/-! ### Who holds which token -/

/-- A state that is steady for the calls of a trial: its tokens are in order, registrations build
and behave the same way each time, and the mode gives a fixed answer. -/
structure State.IsSteady (s : State) (r : Registration) : Prop where
  tokens : s.tokens.Sound
  recipes : ∀ recipe ∈ s.backdrop.recipes, recipe.IsSteady
  mode : s.backdrop.selector.IsFixed r

/-- What may become of a state while calls are at work: it stays steady, it is still the same
instant, and what has been written is kept. -/
structure State.GoesOn (s s' : State) : Prop where
  now : s'.now = s.now
  backdrop : s'.backdrop = s.backdrop
  sound : s'.tokens.Sound
  issued : s.tokens.issued ≤ s'.tokens.issued
  kept : ∀ i ∈ s.tokens.cancelled, i ∈ s'.tokens.cancelled
  journal : s.journal <+: s'.journal
  trace : s.trace <+: s'.trace
  samples : s.samples <+: s'.samples

/-- Between two states none of the tokens of a call is cancelled. Those that are issued meanwhile
are not its own. -/
def State.Spares (owner : Nat → Nat) (name : Nat) (s s' : State) : Prop :=
  ∀ i ∈ s'.tokens.cancelled, owner i = name → i < s.tokens.issued → i ∈ s.tokens.cancelled

/-- Tokens that have been issued stay with their holders. -/
def State.Assigns (s : State) (owner owner' : Nat → Nat) : Prop :=
  ∀ i < s.tokens.issued, owner' i = owner i

/-- The issued tokens that a call holds, each standing for itself. -/
def State.heldBy (s : State) (owner : Nat → Nat) (name : Nat) : Pairing := fun i j =>
  i = j ∧ owner i = name ∧ i < s.tokens.issued

/-- Who holds which token after one call has been at work: the new tokens are its own. -/
def State.ownerAfter (s : State) (owner : Nat → Nat) (name : Nat) : Nat → Nat := fun i =>
  if i < s.tokens.issued then owner i else name

/-- A scheduled call holds the tokens it works with. So nothing that spares these can stop it. -/
def Activity.IsAt (a : Activity Call Stage Outcome) (owner : Nat → Nat) (s : State) : Prop :=
  a.Alike (s.heldBy owner a.token.id) a

namespace State

variable {owner owner' owner'' : Nat → Nat} {name : Nat} {s s' s'' : State} {r : Registration}

namespace GoesOn

theorem refl (sound : s.tokens.Sound) : s.GoesOn s :=
  ⟨rfl, rfl, sound, Nat.le_refl _, fun _ before => before, List.prefix_rfl, List.prefix_rfl,
    List.prefix_rfl⟩

theorem trans (first : s.GoesOn s') (second : s'.GoesOn s'') : s.GoesOn s'' where
  now := second.now.trans first.now
  backdrop := second.backdrop.trans first.backdrop
  sound := second.sound
  issued := Nat.le_trans first.issued second.issued
  kept i before := second.kept i (first.kept i before)
  journal := first.journal.trans second.journal
  trace := first.trace.trans second.trace
  samples := first.samples.trans second.samples

theorem isSteady (goesOn : s.GoesOn s') (steady : s.IsSteady r) : s'.IsSteady r where
  tokens := goesOn.sound
  recipes := goesOn.backdrop ▸ steady.recipes
  mode := goesOn.backdrop ▸ steady.mode

/-- What is cancelled stays cancelled, whoever goes on. -/
theorem isCancelled (goesOn : s.GoesOn s') {t : Token} (cancelled : s.isCancelled t = true) :
    s'.isCancelled t = true :=
  TokenForest.Grows.isCancelled ⟨goesOn.issued, goesOn.kept, fun _ => goesOn.sound⟩ cancelled

end GoesOn

theorem Assigns.refl (s : State) (owner : Nat → Nat) : s.Assigns owner owner :=
  fun _ _ => rfl

theorem Assigns.trans (first : s.Assigns owner owner') (second : s'.Assigns owner' owner'')
    (issued : s.tokens.issued ≤ s'.tokens.issued) : s.Assigns owner owner'' :=
  fun i known => (second i (Nat.lt_of_lt_of_le known issued)).trans (first i known)

theorem assigns_ownerAfter (s : State) (owner : Nat → Nat) (name : Nat) :
    s.Assigns owner (s.ownerAfter owner name) :=
  fun _ known => if_pos known

theorem Spares.trans (first : s.Spares owner name s') (second : s'.Spares owner' name s'')
    (assigns : s.Assigns owner owner') (issued : s.tokens.issued ≤ s'.tokens.issued) :
    s.Spares owner name s'' := by
  intro i after own known
  have between : i ∈ s'.tokens.cancelled :=
    second i after ((assigns i known).trans own) (Nat.lt_of_lt_of_le known issued)
  exact first i between own known

end State

/-- A call still holds its tokens as others are issued and find their holders. -/
theorem Activity.IsAt.mono {a : Activity Call Stage Outcome} {owner owner' : Nat → Nat}
    {s s' : State} (isAt : a.IsAt owner s) (assigns : s.Assigns owner owner')
    (issued : s.tokens.issued ≤ s'.tokens.issued) : a.IsAt owner' s' :=
  Activity.Alike.mono isAt fun pair =>
    ⟨pair.1, (assigns _ pair.2.2).trans pair.2.1, Nat.lt_of_lt_of_le pair.2.2 issued⟩

/-! ### What is done for one call -/

/-- The same scheduled call, later. -/
structure Activity.Continues (a a' : Activity Call Stage Outcome) : Prop where
  request : a'.request = a.request
  token : a'.token = a.token
  startAt : a'.startAt = a.startAt
  abandonAt : a'.abandonAt = a.abandonAt

/-- Something done for one call at a time, alike in all runs. -/
structure Router.Does (router : Router)
    (f : Activity Call Stage Outcome → State → State × Activity Call Stage Outcome) : Prop where
  agrees : ∀ {m : Meeting} {s t : State} {a a' : Activity Call Stage Outcome}, m.Twin s t →
    m.here.backdrop.selector.IsFixed router.registration → a.Alike m.known a' →
      m.Agrees Activity.Alike (f a s) (f a' t)
  continues : ∀ (a : Activity Call Stage Outcome) (s : State), a.Continues (f a s).2

/-- What has become of a state since it met another one. -/
theorem Meeting.Twin.goesOn {m : Meeting} {s t : State} (twin : m.Twin s t) : m.here.GoesOn s where
  now := twin.now
  backdrop := twin.backdrop
  sound := twin.sound
  issued := by
    obtain ⟨k, issued, -⟩ := twin.issued
    omega
  kept := twin.kept
  journal := twin.journal.here_prefix
  trace := twin.trace.here_prefix
  samples := twin.samples.here_prefix

namespace Router.Does

variable {router : Router} {a : Activity Call Stage Outcome} {owner : Nat → Nat} {s : State}
  {f : Activity Call Stage Outcome → State → State × Activity Call Stage Outcome}

/-- What is done for a call leaves it with its tokens, and spares all others. The state meets itself
here, and each token of the call stands for itself. -/
theorem spares (does : router.Does f) (steady : s.IsSteady router.registration)
    (isAt : a.IsAt owner s) :
    s.GoesOn (f a s).1 ∧ (f a s).2.IsAt (s.ownerAfter owner a.token.id) (f a s).1 ∧
      ∀ name ≠ a.token.id, s.Spares owner name (f a s).1 := by
  have fair : (⟨s, s, s.heldBy owner a.token.id⟩ : Meeting).Fair := by
    refine ⟨rfl, rfl, steady.recipes, steady.tokens, steady.tokens, ?_, ?_, ?_⟩
    · rintro i _ ⟨rfl, -, known⟩
      exact ⟨known, known⟩
    · rintro i _ i' _ ⟨rfl, -, -⟩ ⟨rfl, -, -⟩
      exact Iff.rfl
    · rintro i _ ⟨rfl, -, -⟩
      exact Iff.rfl
  have agrees := does.agrees fair.twin steady.mode isAt
  have token : (f a s).2.token.id = a.token.id := congrArg Token.id (does.continues a s).token
  refine ⟨agrees.states.goesOn, ?_, ?_⟩
  · refine Activity.Alike.mono agrees.results ?_
    rintro i j ⟨⟨rfl, own, known⟩ | ⟨k, rfl, rfl⟩, issued, -⟩
    · exact ⟨rfl, (if_pos known).trans (own.trans token.symm), issued⟩
    · exact ⟨rfl, (if_neg (Nat.not_lt.mpr (Nat.le_add_right _ _))).trans token.symm, issued⟩
  · intro name other i after own known
    rcases agrees.states.confined i after with before | ⟨j, ⟨rfl, held, -⟩ | ⟨k, rfl, -⟩⟩
    · exact before
    · exact absurd (own.symm.trans held) other
    · exact absurd known (Nat.not_lt.mpr (Nat.le_add_right _ _))

end Router.Does

/-- Turns are taken alike. -/
theorem Router.does_turn {router : Router} (plain : ∀ d ∈ router.pipeline, d.IsPlain) :
    router.Does fun a s => a.turn router.conduct s where
  agrees twin fixed alike := twin.turn plain fixed alike
  continues a s := by
    unfold Activity.turn Activity.afterTurn
    repeat' split
    all_goals exact ⟨rfl, rfl, rfl, rfl⟩

/-- So are cancellations from outside. -/
theorem Router.does_applyCancel (router : Router) : router.Does fun a s => a.applyCancel s where
  agrees twin _ alike := twin.applyCancel alike
  continues a s := by
    unfold Activity.applyCancel
    repeat' split
    all_goals exact ⟨rfl, rfl, rfl, rfl⟩

namespace Schedule

variable {router : Router} {owner owner' : Nat → Nat} {name : Nat} {s s' t : State}
  {a b : Activity Call Stage Outcome} {as before after : List (Activity Call Stage Outcome)}
  {f : Activity Call Stage Outcome → State → State × Activity Call Stage Outcome} {R : Pairing}

/-! ### Calls in turn -/

/-- What is done for the calls of two lists is done for those of the first list first. -/
theorem each_append {α σ ρ : Type} (f : Activity α σ ρ → State → State × Activity α σ ρ)
    (as bs : List (Activity α σ ρ)) (s : State) :
    each f (as ++ bs) s = ((each f bs (each f as s).1).1,
      (each f as s).2 ++ (each f bs (each f as s).1).2) := by
  induction as generalizing s with
  | nil => rfl
  | cons a as ih => simp only [List.cons_append, each, ih]

theorem writtenByEach_append {α σ ρ : Type} (f : Activity α σ ρ → State → State × Activity α σ ρ)
    (as : List (Activity α σ ρ)) (a : Activity α σ ρ) (bs : List (Activity α σ ρ)) (s : State) :
    writtenByEach f as.length (as ++ a :: bs) s =
      .between a.startAt (each f as s).1 (f a (each f as s).1).1 := by
  induction as generalizing s with
  | nil => rfl
  | cons b as ih => simp only [List.cons_append, List.length_cons, writtenByEach, each, ih]

/-- Calls of a schedule other than the one with the given name. -/
structure Others (as : List (Activity Call Stage Outcome)) (owner : Nat → Nat) (name : Nat)
    (s : State) : Prop where
  isAt : ∀ a ∈ as, a.IsAt owner s
  other : ∀ a ∈ as, a.token.id ≠ name

theorem Others.mono (others : Others as owner name s) (assigns : s.Assigns owner owner')
    (issued : s.tokens.issued ≤ s'.tokens.issued) : Others as owner' name s' :=
  ⟨fun a member => (others.isAt a member).mono assigns issued, others.other⟩

/-- All calls keep their tokens, and with them their names. -/
theorem each_tokens (does : router.Does f) (as : List (Activity Call Stage Outcome)) (s : State) :
    (each f as s).2.map (·.token) = as.map (·.token) := by
  induction as generalizing s with
  | nil => rfl
  | cons a rest ih => simp only [each, List.map_cons, (does.continues a s).token, ih]

theorem length_each (f : Activity Call Stage Outcome → State → State × Activity Call Stage Outcome)
    (as : List (Activity Call Stage Outcome)) (s : State) : (each f as s).2.length = as.length := by
  induction as generalizing s with
  | nil => rfl
  | cons a rest ih => simp only [each, List.length_cons, ih]

/-- What is done for the first of others spares a call, and leaves the rest to be done. -/
theorem Others.step (does : router.Does f) (steady : s.IsSteady router.registration)
    (others : Others (a :: as) owner name s) :
    s.GoesOn (f a s).1 ∧ s.Spares owner name (f a s).1 ∧
      s.Assigns owner (s.ownerAfter owner a.token.id) ∧ (f a s).2.token.id ≠ name ∧
      (f a s).2.IsAt (s.ownerAfter owner a.token.id) (f a s).1 ∧
      Others as (s.ownerAfter owner a.token.id) name (f a s).1 := by
  obtain ⟨goesOn, isAt, spares⟩ := does.spares steady (others.isAt a List.mem_cons_self)
  have assigns := s.assigns_ownerAfter owner a.token.id
  have other : a.token.id ≠ name := others.other a List.mem_cons_self
  refine ⟨goesOn, spares name other.symm, assigns, ?_, isAt, ?_⟩
  · rw [(does.continues a s).token]
    exact other
  · exact Others.mono ⟨fun b member => others.isAt b (List.mem_cons_of_mem _ member),
      fun b member => others.other b (List.mem_cons_of_mem _ member)⟩ assigns goesOn.issued

/-- What is done for others in turn spares a call, by induction on the others. -/
theorem each_others (does : router.Does f) (steady : s.IsSteady router.registration)
    (others : Others as owner name s) :
    s.GoesOn (each f as s).1 ∧ s.Spares owner name (each f as s).1 ∧
      ∃ owner', s.Assigns owner owner' ∧ Others (each f as s).2 owner' name (each f as s).1 := by
  induction as generalizing s owner with
  | nil => exact ⟨.refl steady.tokens, fun i after _ _ => after, owner, .refl s owner, others⟩
  | cons a rest ih =>
    obtain ⟨goesOn, spares, assigns, other, isAt, left⟩ := others.step does steady
    obtain ⟨onwards, sparesToo, owner', assignsToo, still⟩ := ih (goesOn.isSteady steady) left
    refine ⟨goesOn.trans onwards, spares.trans sparesToo assigns goesOn.issued, owner',
      assigns.trans assignsToo goesOn.issued, ?_, ?_⟩
    · intro b member
      rcases List.mem_cons.mp member with rfl | member
      · exact isAt.mono assignsToo onwards.issued
      · exact still.isAt b member
    · intro b member
      rcases List.mem_cons.mp member with rfl | member
      · exact other
      · exact still.other b member

/-! ### A call and its own run -/

/-- A call in a crowd matches the same call in a run of its own. The pairing has its tokens on both
sides, and all of them are its own. -/
structure Matches (R : Pairing) (owner : Nat → Nat) (a b : Activity Call Stage Outcome)
    (s t : State) : Prop where
  backdrop : s.backdrop = t.backdrop
  tokens : R.Fair s.tokens t.tokens
  alike : a.Alike R b
  owned : ∀ {i j}, R i j → owner i = a.token.id
  /-- It is named by its caller's token, which is a token of its own. -/
  caller : a.token = a.request.caller
  root : a.token.above = []

namespace Matches

/-- Others leave it matching, since they leave the backdrop and its tokens as they are. -/
theorem spared (agree : Matches R owner a b s t) (goesOn : s.GoesOn s')
    (spares : s.Spares owner a.token.id s') (assigns : s.Assigns owner owner') :
    Matches R owner' a b s' t where
  backdrop := goesOn.backdrop.trans agree.backdrop
  tokens := {
    here := goesOn.sound
    there := agree.tokens.there
    issued := fun pair =>
      ⟨Nat.lt_of_lt_of_le (agree.tokens.issued pair).1 goesOn.issued, (agree.tokens.issued pair).2⟩
    unique := agree.tokens.unique
    status := fun {i j} pair => by
      rw [← agree.tokens.status pair]
      exact ⟨fun after => spares i after (agree.owned pair) (agree.tokens.issued pair).1,
        goesOn.kept i⟩ }
  alike := agree.alike
  owned pair := (assigns _ (agree.tokens.issued pair).1).trans (agree.owned pair)
  caller := agree.caller
  root := agree.root

/-- What is done for it at the same time in both runs leaves it matching, spares all others, and
writes the same. -/
theorem act (does : router.Does f) (agree : Matches R owner a b s t)
    (steady : s.IsSteady router.registration) (clock : s.now = t.now) :
    s.GoesOn (f a s).1 ∧ (∀ name ≠ a.token.id, s.Spares owner name (f a s).1) ∧
      (f b t).1.now = t.now ∧
      (∃ R', Matches R' (s.ownerAfter owner a.token.id) (f a s).2 (f b t).2 (f a s).1 (f b t).1) ∧
      (Chronicle.between a.startAt s (f a s).1).anonymous =
        (Chronicle.between b.startAt t (f b t).1).anonymous := by
  have fair : (⟨s, t, R⟩ : Meeting).Fair :=
    ⟨clock, agree.backdrop, steady.recipes, agree.tokens⟩
  have agrees := does.agrees fair.twin steady.mode agree.alike
  have twin := agrees.states
  have same := does.continues a s
  have token : (f a s).2.token.id = a.token.id := congrArg Token.id same.token
  refine ⟨twin.goesOn, ?_, twin.nowThere, ⟨_, twin.backdrop_eq, ?_, agrees.results, ?_, ?_, ?_⟩, ?_⟩
  · intro name other i after own known
    rcases twin.confined i after with before | ⟨j, pair | ⟨k, rfl, -⟩⟩
    · exact before
    · exact absurd (own.symm.trans (agree.owned pair)) other
    · exact absurd known (Nat.not_lt.mpr (Nat.le_add_right _ _))
  · exact ⟨twin.sound, twin.soundThere, fun pair => pair.2,
      fun pair pair' => fair.unique pair.1 pair'.1, fun pair => twin.status pair.1⟩
  · rintro i j ⟨pair | ⟨k, rfl, -⟩, -, -⟩
    · exact (if_pos (agree.tokens.issued pair).1).trans ((agree.owned pair).trans token.symm)
    · exact (if_neg (Nat.not_lt.mpr (Nat.le_add_right _ _))).trans token.symm
  · rw [same.token, same.request]
    exact agree.caller
  · rw [same.token]
    exact agree.root
  · rw [agree.alike.startAt]
    exact twin.between_eq b.startAt

/-- The tokens that its attempt looks at are its own, so that only the call itself cancels them. -/
theorem owned_of_watched (agree : Matches R owner a b s t) {c : Course} {x : Attempt}
    (status : a.status = .running (.attempting c x)) {u : Token} (watched : u ∈ x.watched) {i : Nat}
    (member : i ∈ u.id :: u.above) : owner i = a.token.id ∧ i < s.tokens.issued := by
  obtain ⟨j, pair⟩ := agree.alike.pair_of_watched status watched member
  exact ⟨agree.owned pair, (agree.tokens.issued pair).1⟩

/-- Others leave it settled. They take no time, and cancel nothing that it looks at. -/
theorem settled_of_spared {s₀ : State} (agree : Matches R owner a b s t)
    (settled : a.HasSettled s₀ s) (goesOn : s.GoesOn s') (spares : s.Spares owner a.token.id s') :
    a.HasSettled s₀ s' where
  start waiting := goesOn.now ▸ settled.start waiting
  ahead stage running := goesOn.now ▸ settled.ahead stage running
  free c x status u watched i member after := by
    obtain ⟨own, known⟩ := agree.owned_of_watched status watched member
    exact settled.free c x status u watched i member (spares i after own known)

/-- Others leave it idle. -/
theorem idle_of_spared (agree : Matches R owner a b s t) (idle : a.IsIdle router s)
    (goesOn : s.GoesOn s') (spares : s.Spares owner a.token.id s') : a.IsIdle router s' where
  ahead := goesOn.now ▸ idle.ahead
  free c x status u watched := by
    refine TokenForest.isCancelled_eq_false_iff.mpr fun i member after => ?_
    obtain ⟨own, known⟩ := agree.owned_of_watched status watched member
    have free : s.isCancelled u = false := idle.free c x status u watched
    exact TokenForest.isCancelled_eq_false_iff.mp free i member (spares i after own known)

end Matches

/-- Something about a call that others cannot change. It is all that may be assumed of a call when
its turn comes in a round. -/
def Lasts (Q : Activity Call Stage Outcome → State → Prop) : Prop :=
  ∀ {R : Pairing} {owner : Nat → Nat} {a b : Activity Call Stage Outcome} {s s' t : State},
    Matches R owner a b s t → Q a s → s.GoesOn s' → s.Spares owner a.token.id s' → Q a s'

/-- The `n`-th call of a schedule matches the same call in a run of its own, and the calls before
and after it are others. -/
inductive Amid (router : Router) (n : Nat) (as : List (Activity Call Stage Outcome))
    (a b : Activity Call Stage Outcome) (s t : State) : Prop where
  | intro (before after : List (Activity Call Stage Outcome)) (R : Pairing) (owner : Nat → Nat)
      (crowd : as = before ++ a :: after) (place : before.length = n)
      (steady : s.IsSteady router.registration) (first : Others before owner a.token.id s)
      (last : Others after owner a.token.id s) (agree : Matches R owner a b s t)

variable {n : Nat}

theorem Amid.steady (amid : Amid router n as a b s t) : s.IsSteady router.registration := by
  obtain ⟨before, after, R, owner, -, -, steady, -, -, -⟩ := amid
  exact steady

theorem Amid.getElem?_eq (amid : Amid router n as a b s t) : as[n]? = some a := by
  obtain ⟨before, after, R, owner, rfl, rfl, -, -, -, -⟩ := amid
  rw [List.getElem?_append_right (Nat.le_refl _), Nat.sub_self, List.getElem?_cons_zero]

theorem Amid.mem (amid : Amid router n as a b s t) : a ∈ as :=
  List.mem_of_getElem? amid.getElem?_eq

/-- The call is alike in both runs. -/
theorem Amid.alike (amid : Amid router n as a b s t) : ∃ R, a.Alike R b := by
  obtain ⟨before, after, R, owner, -, -, -, -, -, agree⟩ := amid
  exact ⟨R, agree.alike⟩

/-- The token of a call is cancelled in both runs or in neither. -/
theorem Amid.isCancelled_eq (amid : Amid router n as a b s t) :
    s.isCancelled a.token = t.isCancelled b.token := by
  obtain ⟨before, after, R, owner, -, -, -, -, -, agree⟩ := amid
  exact Token.Alike.isCancelled_eq agree.alike.token agree.tokens.status

/-- A call's token is its caller's, with none above it. -/
theorem Amid.isCancelled_iff (amid : Amid router n as a b s t) (state : State) :
    state.isCancelled a.token = true ↔ a.request.caller.id ∈ state.tokens.cancelled := by
  obtain ⟨before, after, R, owner, -, -, -, -, -, agree⟩ := amid
  simp only [State.isCancelled, TokenForest.isCancelled, agree.root, ← agree.caller, List.any_cons,
    List.any_nil, Bool.or_false, List.contains_eq_mem, decide_eq_true_eq]

/-- Something is done for each call in turn: for the one amid them the same as in its own run. It is
done first for those before it, then for the call itself, and then for those after it. -/
theorem each_amid (does : router.Does f) (amid : Amid router n as a b s t) (clock : s.now = t.now)
    {P Q : Activity Call Stage Outcome → State → Prop} (lastsP : Lasts P) (lastsQ : Lasts Q)
    (holds : P a s) (done : ∀ {s₁ R owner}, s.GoesOn s₁ → P a s₁ → Matches R owner a b s₁ t →
      Q (f a s₁).2 (f a s₁).1) :
    ∃ a', Amid router n (each f as s).2 a' (f b t).2 (each f as s).1 (f b t).1 ∧
      a.Continues a' ∧ Q a' (each f as s).1 ∧ s.GoesOn (each f as s).1 ∧ (f b t).1.now = t.now ∧
      (writtenByEach f n as s).anonymous = (Chronicle.between b.startAt t (f b t).1).anonymous := by
  obtain ⟨before, after, R, owner, rfl, rfl, steady, first, last, agree⟩ := amid
  obtain ⟨goesOn₁, spares₁, owner₁, assigns₁, others₁⟩ := each_others does steady first
  have steady₁ := goesOn₁.isSteady steady
  have agree₁ := agree.spared goesOn₁ spares₁ assigns₁
  have holds₁ : P a (each f before s).1 := lastsP agree holds goesOn₁ spares₁
  obtain ⟨goesOn₂, -, clock₂, ⟨R', agree₂⟩, written⟩ :=
    agree₁.act does steady₁ (goesOn₁.now.trans clock)
  have continues := does.continues a (each f before s).1
  have token : (f a (each f before s).1).2.token.id = a.token.id :=
    congrArg Token.id continues.token
  have assigns₂ := (each f before s).1.assigns_ownerAfter owner₁ a.token.id
  have left : Others after ((each f before s).1.ownerAfter owner₁ a.token.id)
      (f a (each f before s).1).2.token.id (f a (each f before s).1).1 := by
    rw [token]
    exact (last.mono assigns₁ goesOn₁.issued).mono assigns₂ goesOn₂.issued
  obtain ⟨goesOn₃, spares₃, owner₃, assigns₃, others₃⟩ :=
    each_others does (goesOn₂.isSteady steady₁) left
  rw [writtenByEach_append, each_append f before (a :: after) s]
  refine ⟨_, ⟨_, _, R', owner₃, rfl, ?_, ?_, ?_, others₃, ?_⟩, continues, ?_, ?_, clock₂, written⟩
  · exact length_each f before s
  · exact goesOn₃.isSteady (goesOn₂.isSteady steady₁)
  · exact token ▸ (others₁.mono assigns₂ goesOn₂.issued).mono assigns₃ goesOn₃.issued
  · exact agree₂.spared goesOn₃ spares₃ assigns₃
  · exact lastsQ agree₂ (done goesOn₁ holds₁ agree₁) goesOn₃ spares₃
  · exact goesOn₁.trans (goesOn₂.trans goesOn₃)

/-- While nothing is done for an idle call amid others, it stays as it is, and nothing is written of
it. -/
theorem each_idle (does : router.Does f) (amid : Amid router n as a b s t)
    (idle : a.IsIdle router s) (rests : ∀ y, a.IsIdle router y → f a y = (y, a)) :
    Amid router n (each f as s).2 a b (each f as s).1 t ∧ a.IsIdle router (each f as s).1 ∧
      s.GoesOn (each f as s).1 ∧ writtenByEach f n as s = {} := by
  obtain ⟨before, after, R, owner, rfl, rfl, steady, first, last, agree⟩ := amid
  obtain ⟨goesOn₁, spares₁, owner₁, assigns₁, others₁⟩ := each_others does steady first
  have steady₁ := goesOn₁.isSteady steady
  have agree₁ := agree.spared goesOn₁ spares₁ assigns₁
  have idle₁ : a.IsIdle router (each f before s).1 := agree.idle_of_spared idle goesOn₁ spares₁
  obtain ⟨goesOn₃, spares₃, owner₃, assigns₃, others₃⟩ :=
    each_others does steady₁ (last.mono assigns₁ goesOn₁.issued)
  rw [writtenByEach_append, each_append f before (a :: after) s]
  simp only [each, rests _ idle₁]
  refine ⟨⟨_, _, R, owner₃, rfl, ?_, ?_, ?_, others₃, ?_⟩, ?_, ?_, Chronicle.between_self _ _⟩
  · exact length_each f before s
  · exact goesOn₃.isSteady steady₁
  · exact others₁.mono assigns₃ goesOn₃.issued
  · exact agree₁.spared goesOn₃ spares₃ assigns₃
  · exact agree₁.idle_of_spared idle₁ goesOn₃ spares₃
  · exact goesOn₁.trans goesOn₃

end Schedule

end TrialRouting
