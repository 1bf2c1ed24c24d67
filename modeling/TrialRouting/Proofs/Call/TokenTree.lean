import Mathlib.Data.List.Pairwise
import TrialRouting.Proofs.Call.Grants

/-!
# The tree of tokens

Calls go on together, attempts expire, and others start in their place. The tokens hang together in
one tree all the while: what was given to an implementation is below its caller's token, the tokens
in between belong to that attempt alone, and they are above nobody else's. `World.Tree.stepped`
shows that every step of a call keeps the tree, and `World.Grants.tree` that every history does.

The main statement is `World.grants_form_tree`. What has been given is cancelled exactly if the
caller's token is or time has run out for that very attempt, however often time has run out for
others. What a step of a call cancels are tokens of its own attempt, or the token of its caller if
the implementation does that as it is called; everything else stays as it is.
-/

namespace TrialRouting

/-- An attempt that waits inside built-in decorators has been granted its tokens, and time has not
run out for it. -/
structure Attempt.IsUnder (attempt : Attempt) (pipeline : Pipeline) (g : Grant) : Prop where
  token : g.token = attempt.token
  inTime : g.expired = false
  works : ∃ o, attempt.flight.WorksTo pipeline o
  tokens : ∀ t ∈ attempt.flight.tokens, g.Owns t.id

namespace World

/-- The tokens of a world form a tree: each grant is below its caller, later ones have later tokens,
and the callers' own tokens are none of theirs. -/
structure Tree (router : Router) (w : World) (gs : List Grant) : Prop where
  grants : ∀ g ∈ gs, ∃ j, w.journeys[g.call]? = some j ∧ g.Fits w.state.tokens j.call.token
  order : gs.Pairwise fun g g' => ∀ id ∈ g.given.id :: g.given.above, id < g'.token.id
  callers : ∀ j ∈ w.journeys, j.call.caller.IsForeign w.state.tokens gs ∧
    j.call.token.IsForeign w.state.tokens gs
  underway : ∀ n j course attempt, w.journeys[n]? = some j →
    j.phase = .attempting course attempt →
      ∃ g ∈ gs, g.call = n ∧ attempt.IsUnder router.pipeline g

variable {router : Router} {w : World} {gs gs' : List Grant} {n : Nat} {j j' : Journey}
  {s s' : State}

/-- Tokens are issued for one attempt only. Of two attempts the later has later tokens. -/
theorem Tree.eq_of_owns (tree : Tree router w gs) {g g' : Grant} (here : g ∈ gs) (there : g' ∈ gs)
    {id : Nat} (owns : g.Owns id) (ownsToo : g'.Owns id) : g = g' := by
  let Apart (g g' : Grant) : Prop := ∀ id, g.Owns id → ¬ g'.Owns id
  have symm : Std.Symm Apart := ⟨fun g g' apart id owns' owns => apart id owns owns'⟩
  have apart : gs.Pairwise Apart := tree.order.imp fun before id owns owns' =>
    absurd (before id owns.1) (Nat.not_lt.mpr owns'.2)
  exact Classical.byContradiction fun different =>
    apart.forall here there different id owns ownsToo

/-- No two attempts have the same token. So the token tells the attempt. -/
theorem Tree.eq_of_token (tree : Tree router w gs) {g g' : Grant} (here : g ∈ gs) (there : g' ∈ gs)
    (same : g.token = g'.token) : g = g' := by
  obtain ⟨_, _, fits⟩ := tree.grants g here
  obtain ⟨_, _, fitsToo⟩ := tree.grants g' there
  have shared : g.Owns g'.token.id := same ▸ fits.owns_token
  exact tree.eq_of_owns here there shared fitsToo.owns_token

/-- An attempt in flight owns its token and those of the time bounds it is inside of. -/
theorem Tree.owner (tree : Tree router w gs) (here : w.journeys[n]? = some j) {course : Course}
    {attempt : Attempt} (phase : j.phase = .attempting course attempt) :
    ∃ g ∈ gs, g.call = n ∧ g.token = attempt.token ∧
      ∀ t, t = attempt.token ∨ t ∈ attempt.flight.tokens → g.Owns t.id := by
  obtain ⟨g, mem, number, under⟩ := tree.underway n j course attempt here phase
  obtain ⟨_, _, fits⟩ := tree.grants g mem
  refine ⟨g, mem, number, under.token, ?_⟩
  rintro t (rfl | bound)
  · exact under.token ▸ fits.owns_token
  · exact under.tokens t bound

/-- A journey that has taken a step is where it was among the calls, and so are all others. The
calls themselves do not change. -/
theorem exists_journey_set (here : w.journeys[n]? = some j) (call : j'.call = j.call) {m : Nat}
    {k : Journey} (there : w.journeys[m]? = some k) :
    ∃ k', (w.journeys.set n j')[m]? = some k' ∧ k'.call = k.call := by
  by_cases same : n = m
  · subst same
    obtain rfl : j = k := Option.some.inj (here.symm.trans there)
    exact ⟨j', List.getElem?_set_self (List.getElem?_eq_some_iff.mp here).1, call⟩
  · exact ⟨k, (List.getElem?_set_ne same).trans there, rfl⟩

/-- What is to be shown of a step, given that it takes the tokens from one forest to another and
leaves the grants of other calls alone. -/
theorem Tree.step (tree : Tree router w gs) (here : w.journeys[n]? = some j)
    (call : j'.call = j.call)
    (fits : ∀ g ∈ gs', ∃ k, w.journeys[g.call]? = some k ∧ g.Fits s'.tokens k.call.token)
    (order : gs'.Pairwise fun g g' => ∀ id ∈ g.given.id :: g.given.above, id < g'.token.id)
    (foreign : ∀ t : Token, t.IsForeign w.state.tokens gs → t.IsForeign s'.tokens gs')
    (others : ∀ g ∈ gs, g.call ≠ n → g ∈ gs')
    (own : ∀ course attempt, j'.phase = .attempting course attempt →
      ∃ g ∈ gs', g.call = n ∧ attempt.IsUnder router.pipeline g) :
    Tree router ⟨s', w.journeys.set n j'⟩ gs' := by
  refine ⟨?_, order, ?_, ?_⟩
  · intro g member
    obtain ⟨k, there, fits⟩ := fits g member
    obtain ⟨k', there, same⟩ := exists_journey_set here call there
    exact ⟨k', there, same ▸ fits⟩
  · intro k member
    rcases List.mem_or_eq_of_mem_set member with other | rfl
    · exact (tree.callers k other).imp (foreign _) (foreign _)
    · rw [call]
      exact (tree.callers j (List.mem_of_getElem? here)).imp (foreign _) (foreign _)
  · intro m k course attempt there phase
    by_cases same : n = m
    · subst same
      rw [List.getElem?_set_self (List.getElem?_eq_some_iff.mp here).1] at there
      cases there
      exact own course attempt phase
    · rw [List.getElem?_set_ne same] at there
      obtain ⟨g, member, number, under⟩ := tree.underway m k course attempt there phase
      exact ⟨g, others g member (number ▸ Ne.symm same), number, under⟩

/-- A step in which nothing is cancelled. Tokens may be issued, and the grants stay what they
are. -/
theorem Tree.calm (tree : Tree router w gs) (here : w.journeys[n]? = some j)
    (call : j'.call = j.call) (cancelled : s'.tokens.cancelled = w.state.tokens.cancelled)
    (issued : w.state.tokens.issued ≤ s'.tokens.issued)
    (still : ∀ course attempt, j'.phase = .attempting course attempt →
      j.phase = .attempting course attempt) :
    Tree router ⟨s', w.journeys.set n j'⟩ gs := by
  refine tree.step here call ?_ tree.order ?_ (fun g member _ => member)
    fun course attempt phase => tree.underway n j course attempt here (still course attempt phase)
  · intro g member
    obtain ⟨k, there, fits⟩ := tree.grants g member
    exact ⟨k, there, fits.mono issued fun id _ => by rw [cancelled]⟩
  · exact fun t foreign => foreign.mono issued

/-- A step in which time runs out for the attempt in flight. One of its tokens is cancelled, and
below that there are none but its own. -/
theorem Tree.cut (tree : Tree router w gs) (here : w.journeys[n]? = some j)
    (call : j'.call = j.call) {course : Course} {attempt : Attempt} {t : Token}
    (phase : j.phase = .attempting course attempt)
    (own : t = attempt.token ∨ t ∈ attempt.flight.tokens)
    (tokens : s'.tokens = w.state.tokens.cancel t)
    (out : ∀ course attempt, j'.phase ≠ .attempting course attempt) :
    Tree router ⟨s', w.journeys.set n j'⟩ (gs.map (·.after attempt true)) := by
  obtain ⟨g₀, mem₀, number, own₀, owned⟩ := tree.owner here phase
  have owns : g₀.Owns t.id := owned t own
  have same {g : Grant} (member : g ∈ gs) (token : g.token = attempt.token) : g = g₀ :=
    tree.eq_of_token member mem₀ (token.trans own₀.symm)
  have issued : s'.tokens.issued = w.state.tokens.issued := congrArg (·.issued) tokens
  refine tree.step here call ?_ ?_ ?_ ?_ fun course attempt phase =>
    absurd phase (out course attempt)
  · intro g' member'
    obtain ⟨g, member, rfl⟩ := List.mem_map.mp member'
    obtain ⟨k, there, fits⟩ := tree.grants g member
    rw [(g.after_eq attempt true).1, tokens]
    refine ⟨k, there, ?_⟩
    by_cases token : g.token = attempt.token
    · exact fits.expire token (same member token ▸ owns)
    · rw [Grant.after_of_ne token]
      refine fits.cancel fun ownsToo => ?_
      obtain rfl : g = g₀ := tree.eq_of_owns member mem₀ ownsToo owns
      exact token own₀
  · refine List.pairwise_map.mpr (tree.order.imp fun {g g'} before => ?_)
    rw [(g.after_eq attempt true).2.2, (g'.after_eq attempt true).2.1]
    exact before
  · intro u foreign id member
    refine ⟨issued ▸ (foreign id member).1, ?_⟩
    intro g' mem' owns'
    obtain ⟨g, mem, rfl⟩ := List.mem_map.mp mem'
    exact (foreign id member).2 g mem ((g.owns_after attempt true id).mp owns')
  · intro g member other
    refine List.mem_map.mpr ⟨g, member, Grant.after_of_ne ?_ true⟩
    intro token
    exact other ((congrArg _ (same member token)).trans number)

/-- A step in which an attempt calls its implementation. It gets new tokens, below the call's own
and later than all before. -/
theorem Tree.called (sound : w.Sound) (tree : Tree router w gs) (here : w.journeys[n]? = some j)
    (call : j'.call = j.call) {a : Approach} {cut : Option Token} {cancels : Bool}
    (below : a.Below (w.state.tokens.nextChild j.call.token) w.state.issueToken)
    (own : ∀ t ∈ cut, t = w.state.tokens.nextChild j.call.token ∨ t ∈ a.tokens)
    (tokens : s'.tokens =
      (if cancels then a.state.tokens.cancel j.call.caller else a.state.tokens).cut cut)
    (waits : ∀ course attempt, j'.phase = .attempting course attempt → cut = none ∧
      attempt.token = w.state.tokens.nextChild j.call.token ∧ attempt.flight.tokens = a.tokens ∧
        ∃ o, attempt.flight.WorksTo router.pipeline o) :
    Tree router ⟨s', w.journeys.set n j'⟩
      (gs ++ [.ofCall n w.state j.call.token a cut.isSome]) := by
  obtain ⟨foreignCaller, foreign⟩ := tree.callers j (List.mem_of_getElem? here)
  obtain ⟨issued, cancelled⟩ := TokenForest.cancelled_of_called below.calm.cancelled j.call.caller
    cancels cut
  rw [← tokens] at issued cancelled
  have later : w.state.tokens.issued ≤ s'.tokens.issued :=
    issued ▸ Nat.le_of_succ_le below.calm.issued
  refine tree.step here call ?_ ?_ ?_ (fun g member _ => List.mem_append_left _ member) ?_
  · intro g member
    rcases List.mem_append.mp member with old | new
    · obtain ⟨k, there, fits⟩ := tree.grants g old
      refine ⟨k, there, fits.mono later fun id ownsToo => ?_⟩
      rw [cancelled]
      refine ⟨?_, fun before => .inr (.inr before)⟩
      rintro (⟨t, member, rfl⟩ | ⟨-, rfl⟩ | before)
      · have new := Grant.owns_ofCall n cut.isSome below (own t member)
        exact absurd (fits.issued _ ownsToo.1) (Nat.not_lt.mpr new.2)
      · exact absurd ownsToo ((foreignCaller _ List.mem_cons_self).2 g old)
      · exact before
    · rw [List.mem_singleton.mp new]
      exact ⟨j, here, .ofCall sound.tokens (fun id member => (foreign id member).1)
        (foreignCaller _ List.mem_cons_self).1 below own issued cancelled⟩
  · refine List.pairwise_append.mpr ⟨tree.order, List.pairwise_singleton _ _, ?_⟩
    intro g old g' new
    obtain ⟨_, _, fits⟩ := tree.grants g old
    rw [List.mem_singleton.mp new]
    exact fits.issued
  · intro t foreign id member
    obtain ⟨known, apart⟩ := foreign id member
    refine ⟨Nat.lt_of_lt_of_le known later, fun g mem => ?_⟩
    rcases List.mem_append.mp mem with old | new
    · exact apart g old
    · rw [List.mem_singleton.mp new]
      exact fun ownsToo => absurd known (Nat.not_lt.mpr ownsToo.2)
  · intro course attempt phase
    obtain ⟨rfl, token, tokens, works⟩ := waits course attempt phase
    exact ⟨_, List.mem_append_right _ List.mem_cons_self, rfl, token.symm, rfl, works,
      fun t member => Grant.owns_ofCall n _ below (.inr (tokens ▸ member))⟩

/-- The work of a waiting attempt goes on inside built-in decorators. So its turns do to the tokens
what is known of those. -/
theorem Tree.works (tree : Tree router w gs) (here : w.journeys[n]? = some j) (course : Course)
    (attempt : Attempt) (phase : j.phase = .attempting course attempt) :
    ∃ o, attempt.flight.WorksTo router.pipeline o :=
  have ⟨_, _, _, under⟩ := tree.underway n j course attempt here phase
  under.works

/-- Every step of a call keeps the tree. There are three kinds of them: nothing is cancelled, time
runs out, or an implementation is called. -/
theorem Tree.stepped (builtIn : ∀ d ∈ router.pipeline, d.isBuiltIn = true) (sound : w.Sound)
    (tree : Tree router w gs) (here : w.journeys[n]? = some j)
    (step : j.Step router w.state s' j') :
    Tree router ⟨s', w.journeys.set n j'⟩ (j.grantsAfter router n w.state s' j' gs) := by
  have call : j'.call = j.call := step.call_eq
  cases step.effect builtIn (tree.works here) with
  | calm cancelled issued handedOut uncalled inTime still =>
    have same : j.grantsAfter router n w.state s' j' gs = gs := by
      cases phase : j.phase with
      | launching course =>
        have none : router.callSite? j.call course w.state = none := by
          simpa only [Journey.callSite?, phase] using uncalled
        simp [Journey.grantsAfter, phase, none]
      | attempting course attempt =>
        have unchanged : (·.after attempt false : Grant → Grant) = id :=
          funext fun g => g.after_inTime attempt
        simp only [Journey.grantsAfter, phase, inTime course attempt phase, unchanged, List.map_id]
      | _ => simp only [Journey.grantsAfter, phase]
    rw [same]
    exact tree.calm here call cancelled issued still
  | cut phase own tokens late out =>
    simp only [Journey.grantsAfter, phase, late]
    exact tree.cut here call phase own tokens out
  | called phase site below live own tokens handedOut late waits =>
    simp only [Journey.grantsAfter, phase, site, late]
    exact tree.called sound here call below own tokens waits

/-- The tokens of every world form a tree, by induction on its history. -/
theorem Grants.tree (builtIn : ∀ d ∈ router.pipeline, d.isBuiltIn = true) (tokens : s.tokens.Sound)
    (grants : Grants router s w gs) : Tree router w gs := by
  induction grants with
  | start =>
    exact ⟨fun g none => absurd none List.not_mem_nil, .nil,
      fun j none => absurd none List.not_mem_nil, fun n j course attempt none => by cases none⟩
  | @joined w gs call before caller token ih =>
    refine ⟨?_, ih.order, ?_, ?_⟩
    · intro g member
      obtain ⟨j, here, fits⟩ := ih.grants g member
      exact ⟨j, (List.getElem?_append_left (List.getElem?_eq_some_iff.mp here).1).trans here, fits⟩
    · intro j member
      rcases List.mem_append.mp member with old | new
      · exact ih.callers j old
      · rw [List.mem_singleton.mp new]
        exact ⟨caller, token⟩
    · intro n j course attempt here phase
      rcases Nat.lt_or_ge n w.journeys.length with old | new
      · rw [List.getElem?_append_left old] at here
        exact ih.underway n j course attempt here phase
      · rw [List.getElem?_append_right new] at here
        rw [List.mem_singleton.mp (List.mem_of_getElem? here)] at phase
        cases phase
  | stepped before here step ih =>
    exact ih.stepped builtIn (Becomes.sound before.becomes (sound_of_empty tokens)) here step
  | @outside w gs s' before change apart ih =>
    have grows : w.state.tokens.Grows s'.tokens := change.grows
    refine ⟨?_, ih.order, ?_, ih.underway⟩
    · intro g member
      obtain ⟨j, here, fits⟩ := ih.grants g member
      exact ⟨j, here, fits.mono grows.issued fun id owns =>
        ⟨apart g member id owns, grows.cancelled id⟩⟩
    · intro j member
      exact (ih.callers j member).imp (·.mono grows.issued) (·.mono grows.issued)

/-- A step of a call makes no difference to a token that has been issued before and is not below
one of the attempt in flight, unless the call's implementation cancels the caller's token. -/
theorem Tree.isCancelled_step (builtIn : ∀ d ∈ router.pipeline, d.isBuiltIn = true)
    (tree : Tree router w gs) (here : w.journeys[n]? = some j) (step : j.Step router w.state s' j')
    {u : Token} (known : ∀ id ∈ u.id :: u.above, id < w.state.tokens.issued)
    (apart : ∀ course attempt, j.phase = .attempting course attempt → ∀ g ∈ gs,
      g.token = attempt.token → ∀ id, g.Owns id → id ∉ u.id :: u.above) :
    s'.isCancelled u = (w.state.isCancelled u ||
      (j.cancelsCaller router w.state && (u.id :: u.above).contains j.call.caller.id)) := by
  cases step.effect builtIn (tree.works here) with
  | calm cancelled issued handedOut uncalled inTime still =>
    simp only [Journey.cancelsCaller, uncalled, Option.any_none, Bool.false_and, Bool.or_false,
      State.isCancelled, TokenForest.isCancelled, cancelled]
  | @cut course attempt t phase own tokens late out =>
    obtain ⟨g, mem, -, same, owned⟩ := tree.owner here phase
    have beyond : t.id ∉ u.id :: u.above := apart course attempt phase g mem same t.id (owned t own)
    simp only [Journey.cancelsCaller, Journey.callSite?, phase, Option.any_none, Bool.false_and,
      Bool.or_false, State.isCancelled, tokens, TokenForest.isCancelled_cancel,
      List.contains_eq_mem, beyond, decide_false]
  | @called course inv a cut phase site below live own tokens handedOut late waits =>
    have new : ∀ t ∈ cut, t.id ∉ u.id :: u.above := by
      intro t member above
      have old : t.id < w.state.tokens.issued := known _ above
      rcases own t member with rfl | bound
      · exact Nat.lt_irrefl _ old
      · exact Nat.lt_irrefl _ (Nat.lt_of_lt_of_le old (Nat.le_of_succ_le (below.issued t bound).1))
    have same : a.state.tokens.isCancelled u = w.state.tokens.isCancelled u := by
      rw [TokenForest.isCancelled, below.calm.cancelled]
      rfl
    simp only [State.isCancelled, tokens, TokenForest.isCancelled_cut _ new]
    split
    · next cancels => rw [TokenForest.isCancelled_cancel, same, cancels, Bool.true_and]
    · next keeps => rw [same, eq_false_of_ne_true keeps, Bool.false_and, Bool.or_false]

/-! ### The grants of a world -/

/-- How the tokens of a world hang together. -/
structure TokensInOrder (router : Router) (w : World) (gs : List Grant) : Prop where
  /-- The token that an implementation has been given is cancelled exactly if the token of the
  caller is, or if time has run out for its attempt. -/
  given : ∀ g ∈ gs, ∃ j, w.journeys[g.call]? = some j ∧
    w.state.isCancelled g.given = (w.state.isCancelled j.call.token || g.expired)
  /-- The tokens issued for an attempt are neither above the token of a caller nor above a token
  that has been given in another attempt. -/
  apart : ∀ g ∈ gs, ∀ id, g.Owns id →
    (∀ k ∈ w.journeys, id ∉ k.call.token.id :: k.call.token.above) ∧
      ∀ g' ∈ gs, g' ≠ g → id ∉ g'.given.id :: g'.given.above
  /-- A step of a call, in which time may run out for its attempt, makes no difference to the token
  of any caller or to one given in any other attempt. Only an implementation that cancels the token
  of its caller as it is called does. -/
  steps : ∀ (n : Nat) (j : Journey) (s' : State) (j' : Journey), w.journeys[n]? = some j →
    j.Step router w.state s' j' →
    (∀ k ∈ w.journeys, s'.isCancelled k.call.token = (w.state.isCancelled k.call.token ||
      (j.cancelsCaller router w.state &&
        (k.call.token.id :: k.call.token.above).contains j.call.caller.id))) ∧
    ∀ g ∈ gs, (∀ course attempt, j.phase = .attempting course attempt → g.token ≠ attempt.token) →
      s'.isCancelled g.given = (w.state.isCancelled g.given ||
        (j.cancelsCaller router w.state &&
          (g.given.id :: g.given.above).contains j.call.caller.id))
  /-- The next attempt of a call starts with a token that is cancelled only if the caller's is. The
  one that its implementation gets is live, and is listed if the call has its tokens listed. -/
  launches : ∀ (n : Nat) (j : Journey) (s' : State) (j' : Journey) (course : Course),
    w.journeys[n]? = some j → j.phase = .launching course → j.Step router w.state s' j' →
    w.state.issueToken.isCancelled (w.state.tokens.nextChild j.call.token) =
        w.state.isCancelled j.call.token ∧
      (∀ inv a, router.callSite? j.call course w.state = some (inv, a) →
        a.state.isCancelled a.token = false) ∧
      s'.handedOut = w.state.handedOut ++ if j.call.handsOut then
        ((router.callSite? j.call course w.state).map (·.2.token)).toList else []

/-- What is issued for an attempt is above no caller's token and above none that was given in
another attempt. So cancelling it is felt by nobody else. -/
theorem Tree.apart (tree : Tree router w gs) {g : Grant} (here : g ∈ gs) {id : Nat}
    (owns : g.Owns id) :
    (∀ k ∈ w.journeys, id ∉ k.call.token.id :: k.call.token.above) ∧
      ∀ g' ∈ gs, g' ≠ g → id ∉ g'.given.id :: g'.given.above := by
  have callers (k : Journey) (mem : k ∈ w.journeys) :
      id ∉ k.call.token.id :: k.call.token.above := fun above =>
    ((tree.callers k mem).2 id above).2 g here owns
  refine ⟨callers, fun g' there different above => ?_⟩
  obtain ⟨k, mem, fits⟩ := tree.grants g' there
  obtain ⟨own, line, -, known⟩ := fits.line
  rw [line] at above
  rcases List.mem_append.mp above with new | old
  · have ownsToo : g'.Owns id := ⟨line ▸ List.mem_append_left _ new, (known id new).1⟩
    exact different (tree.eq_of_owns there here ownsToo owns)
  · exact callers k (List.mem_of_getElem? mem) old

/-- Cancellation tokens form the right tree. However calls through a stack of built-in decorators go
on together, every token that one of their implementations has been given is cancelled exactly if
the caller's token is, or if the trial's deadline or a time bound around that very call has run out
in the course of its attempt. No step of a call, and so no expiry, makes a difference to the token
of a caller or to one given in another attempt of the same or another call, save for an
implementation that cancels its caller's token itself. So the next attempt starts with a live token
unless the caller's is cancelled, however many attempts have expired before.

Proof: each grant is remembered with the tokens that were issued for its attempt. These stand
between the token that was given and the caller's, and are newer than whatever was granted before. A
step cancels nothing, or one of the attempt's own tokens exactly if time has run out for it, or the
caller's token if the implementation does so. So the tree is kept along every history, and whether a
token counts as cancelled can be read off what is above it. -/
theorem grants_form_tree (builtIn : ∀ d ∈ router.pipeline, d.isBuiltIn = true)
    (tokens : s.tokens.Sound) (grants : Grants router s w gs) : TokensInOrder router w gs := by
  have tree : Tree router w gs := grants.tree builtIn tokens
  have sound : w.Sound := Becomes.sound grants.becomes (sound_of_empty tokens)
  refine ⟨?_, fun g here id owns => tree.apart here owns, ?_, ?_⟩
  · intro g member
    obtain ⟨j, here, fits⟩ := tree.grants g member
    exact ⟨j, here, fits.isCancelled_given⟩
  · intro n j s' j' here step
    constructor
    · intro k member
      refine tree.isCancelled_step builtIn here step
        (fun id above => ((tree.callers k member).2 id above).1) ?_
      intro _ _ _ g mem _ id owns
      exact (tree.apart mem owns).1 k member
    · intro g member other
      obtain ⟨_, _, fits⟩ := tree.grants g member
      refine tree.isCancelled_step builtIn here step fits.issued ?_
      intro course attempt phase g' mem token id owns
      refine (tree.apart mem owns).2 g member ?_
      rintro rfl
      exact other course attempt phase token
  · intro n j s' j' course here phase step
    refine ⟨j.call.isStopped_eq sound.tokens, ?_⟩
    cases step.effect builtIn (tree.works here) with
    | calm cancelled issued handedOut uncalled inTime still =>
      simp only [Journey.callSite?, phase] at uncalled
      rw [uncalled, handedOut]
      exact ⟨by rintro _ _ ⟨⟩, by simp⟩
    | cut attempting own tokens late out => cases phase.symm.trans attempting
    | called launching site below live own tokens handedOut late waits =>
      cases phase.symm.trans launching
      rw [site, handedOut]
      refine ⟨?_, rfl⟩
      rintro _ _ ⟨⟩
      exact live

/-! ### Two calls for which time runs out -/

/-- The grants of a world after its calls have got on by themselves in turn. -/
def grantsAlong (router : Router) : List Nat → World → List Grant → List Grant
  | [], _, gs => gs
  | n :: turns, w, gs =>
      match w.journeys[n]? with
      | none => grantsAlong router turns w gs
      | some j =>
          let turn := j.advance router w.state
          grantsAlong router turns ⟨turn.1, w.journeys.set n turn.2⟩
            (j.grantsAfter router n w.state turn.1 turn.2 gs)

/-- What a call does by itself is a step, unless it waits for its key or is over. Then nothing is
granted either. -/
theorem step_or_stays (router : Router) (j : Journey) (s : State) :
    j.Step router s (j.advance router s).1 (j.advance router s).2 ∨
      j.advance router s = (s, j) ∧
        ∀ n gs, j.grantsAfter router n s (j.advance router s).1 (j.advance router s).2 gs = gs := by
  rcases j.advance_eq_or_step router s with stays | step
  · cases phase : j.phase with
    | launching course =>
      have left : (j.advance router s).2.phase ≠ .launching course := by
        simp only [Journey.advance, phase]
        split
        · split <;> simp
        · simp
      rw [stays] at left
      exact absurd phase left
    | attempting course attempt =>
      refine .inl ?_
      simp only [Journey.advance, phase]
      split
      · next resumed => exact .left phase resumed
      · next resumed => exact .waited phase resumed
    | _ => exact .inr ⟨stays, fun n gs => by simp only [Journey.grantsAfter, phase]⟩
  · exact .inl step

/-- What calls do by themselves, one after another, goes on with a history and adds the grants of
their steps. -/
theorem Grants.advance (grants : Grants router s w gs) (turns : List Nat) :
    Grants router s (World.advance router turns w) (grantsAlong router turns w gs) := by
  induction turns generalizing w gs with
  | nil => exact grants
  | cons n turns ih =>
    cases here : w.journeys[n]? with
    | none =>
      simp only [World.advance, grantsAlong, here]
      exact ih grants
    | some j =>
      simp only [World.advance, grantsAlong, here]
      refine ih ?_
      rcases step_or_stays router j w.state with step | ⟨stays, same⟩
      · exact .stepped grants here step
      · have unchanged : w.journeys.set n j = w.journeys := by
          obtain ⟨known, same⟩ := List.getElem?_eq_some_iff.mp here
          rw [← same, List.set_getElem_self]
        rw [same, stays, unchanged]
        exact grants

/-- A router whose implementation takes longer than its two time bounds and the trial's deadline
allow. The bounds are due together, and before the deadline. -/
def pressedRouter : Router :=
  { spareRouter with
    registration := { spareRouter.registration with
      trials := [⟨"lost", "good"⟩, ⟨"spare", "good"⟩]
      timeout := some ⟨.ofMillis 3, .fallbackToSpecific "spare", .wholeSequence⟩ }
    pipeline := [.timeout (.ofMillis 2), .concurrencyLimit 0, .timeout (.ofMillis 2)] }

/-- Two calls of that router have joined. -/
def pressedStart : World :=
  ⟨spareStart, [{ call := spareCall 0 "wait" }, { call := spareCall 1 "wait" }]⟩

/-- The clock of a world has been put forward. -/
def atTime (w : World) (now : Instant) : World :=
  { w with state := { w.state with now } }

/-- When the bounds of the first attempts are due, the second ones are started in their place. -/
def pressedBounds : World :=
  World.advance pressedRouter [0, 0, 0, 1, 1, 1]
    ((World.advance pressedRouter [0, 0, 0, 1, 1, 1] pressedStart).atTime 2)

/-- Then the deadline has cut the second attempt of the first call off. -/
def pressedDeadline : World :=
  World.advance pressedRouter [0] (pressedBounds.atTime 3)

/-- Time has run out for both first attempts and for the second one of the first call. The second
call's has a token that is live all the same. -/
theorem pressed_calls_form_tree :
    (∀ d ∈ pressedRouter.pipeline, d.isBuiltIn = true) ∧ spareStart.tokens.Sound ∧
      ∃ gs, Grants pressedRouter spareStart pressedDeadline gs ∧
        gs.map (fun g => (g.call, g.token.id, g.given.id, g.expired)) =
          [(0, 2, 4, true), (1, 5, 7, true), (0, 8, 10, true), (1, 11, 13, false)] ∧
        gs.map (fun g => pressedDeadline.state.isCancelled g.given) = [true, true, true, false] ∧
        TokensInOrder pressedRouter pressedDeadline gs := by
  have builtIn : ∀ d ∈ pressedRouter.pipeline, d.isBuiltIn = true := by decide
  have later {w : World} {gs : List Grant} (grants : Grants pressedRouter spareStart w gs)
      (now : Instant) (later : w.state.now ≤ now) :
      Grants pressedRouter spareStart (w.atTime now) gs :=
    .outside grants (.clock later) fun _ _ _ _ cancelled => cancelled
  have foreign (id : Nat) (known : id < 2) : Token.IsForeign ⟨id, []⟩ spareStart.tokens [] := by
    intro other member
    rw [List.mem_singleton.mp member]
    exact ⟨known, fun _ impossible => absurd impossible List.not_mem_nil⟩
  have joined : Grants pressedRouter spareStart pressedStart [] :=
    .joined (.joined .start (foreign 0 (by decide)) (foreign 0 (by decide)))
      (foreign 1 (by decide)) (foreign 1 (by decide))
  have second :=
    (later (joined.advance [0, 0, 0, 1, 1, 1]) 2 (by decide)).advance [0, 0, 0, 1, 1, 1]
  have third := (later second 3 (by decide)).advance [0]
  exact ⟨builtIn, sound_spareStart, _, third, rfl, rfl,
    grants_form_tree builtIn sound_spareStart third⟩

end World

end TrialRouting
