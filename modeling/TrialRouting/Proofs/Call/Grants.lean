import TrialRouting.Proofs.Call.Tokens

/-!
# The tokens that implementations get

A `Grant` remembers which token the implementation of an attempt has got, and whether time has run
out for the attempt since. `World.Grants` keeps the list of all grants of a world as its calls go
on. A grant fits in the tree of tokens if all tokens between the one that was given and the
caller's are the attempt's own, and if one of those is cancelled exactly if time has run out.
-/

namespace TrialRouting

/-- A token that an implementation has been given. -/
structure Grant where
  /-- The number of the call. -/
  call : Nat
  /-- The token of the attempt. -/
  token : Token
  /-- The token that the implementation of the attempt has been given. -/
  given : Token
  /-- Whether the trial's deadline or a time bound around the implementation has run out in the
  course of the attempt. -/
  expired : Bool

namespace Grant

/-- The grant of an attempt that calls its implementation at a place on its way in. -/
def ofCall (n : Nat) (s : State) (caller : Token) (a : Approach) (late : Bool) : Grant :=
  ⟨n, s.tokens.nextChild caller, a.token, late⟩

/-- The tokens issued for the attempt: from the one that was given up to the attempt's own. Tokens
are numbered as they are issued, so those above it that are older belong to somebody else. -/
def Owns (g : Grant) (id : Nat) : Prop :=
  id ∈ g.given.id :: g.given.above ∧ g.token.id ≤ id

/-- The grant after a turn of some attempt. Only the attempt it was made in can run out of time for
it. -/
def after (g : Grant) (attempt : Attempt) (late : Bool) : Grant :=
  if g.token = attempt.token then { g with expired := g.expired || late } else g

end Grant

/-- A token of somebody else's: neither it nor any token above it was issued for an attempt. Callers
come with tokens of this kind. -/
def Token.IsForeign (t : Token) (f : TokenForest) (gs : List Grant) : Prop :=
  ∀ id ∈ t.id :: t.above, id < f.issued ∧ ∀ g ∈ gs, ¬ g.Owns id

/-- It stays so as tokens are issued. -/
theorem Token.IsForeign.mono {t : Token} {f f' : TokenForest} {gs : List Grant}
    (foreign : t.IsForeign f gs) (issued : f.issued ≤ f'.issued) : t.IsForeign f' gs :=
  fun id above => ⟨Nat.lt_of_lt_of_le (foreign id above).1 issued, (foreign id above).2⟩

namespace Journey

/-- The grants after a step of a call. -/
def grantsAfter (router : Router) (n : Nat) (s : State) (j : Journey) (s' : State) (j' : Journey)
    (gs : List Grant) : List Grant :=
  match j.phase with
  | .launching course =>
      gs ++ ((router.callSite? j.call course s).map fun (_, a) =>
        .ofCall n s j.call.token a (isLate s s' j')).toList
  | .attempting _ attempt => gs.map (·.after attempt (isLate s s' j'))
  | _ => gs

end Journey

/-- A history of a world, with the tokens that implementations have been given in it. Whoever calls
has a token of its own, and cancels no token that was issued for an attempt. -/
inductive World.Grants (router : Router) (s : State) : World → List Grant → Prop where
  | start : Grants router s ⟨s, []⟩ []
  | joined {w : World} {gs : List Grant} {call : Call} (before : Grants router s w gs)
      (caller : call.caller.IsForeign w.state.tokens gs)
      (token : call.token.IsForeign w.state.tokens gs) :
      Grants router s { w with journeys := w.journeys ++ [{ call }] } gs
  | stepped {w : World} {gs : List Grant} {n : Nat} {j j' : Journey} {s' : State}
      (before : Grants router s w gs) (here : w.journeys[n]? = some j)
      (step : j.Step router w.state s' j') :
      Grants router s ⟨s', w.journeys.set n j'⟩ (j.grantsAfter router n w.state s' j' gs)
  | outside {w : World} {gs : List Grant} {s' : State} (before : Grants router s w gs)
      (change : w.state.Outside s')
      (apart : ∀ g ∈ gs, ∀ id, g.Owns id → id ∈ s'.tokens.cancelled →
        id ∈ w.state.tokens.cancelled) :
      Grants router s { w with state := s' } gs

/-- The history of a world with grants is a history of it. -/
theorem World.Grants.becomes {router : Router} {s : State} {w : World} {gs : List Grant}
    (grants : World.Grants router s w gs) : Becomes router ⟨s, []⟩ w := by
  induction grants with
  | start => exact .refl
  | joined before caller token ih => exact ih.tail (.joined (caller _ List.mem_cons_self).1)
  | stepped before here step ih => exact ih.tail (.stepped here step)
  | outside before change apart ih => exact ih.tail (.outside change)

/-! ### The place of a grant -/

namespace TokenForest

/-- What is cancelled once another token has been, or none: that token, and what was cancelled
before. -/
theorem mem_cancelled_cut (f : TokenForest) (cut : Option Token) (id : Nat) :
    id ∈ (f.cut cut).cancelled ↔ (∃ t ∈ cut, t.id = id) ∨ id ∈ f.cancelled := by
  cases cut with
  | none => simp [TokenForest.cut]
  | some t => simp [TokenForest.cut, TokenForest.cancel, eq_comm]

/-- Cancelling leaves tokens alone that are not below what is cancelled. A token counts as cancelled
if one above it is. -/
theorem isCancelled_cut (f : TokenForest) {cut : Option Token} {u : Token}
    (apart : ∀ t ∈ cut, t.id ∉ u.id :: u.above) : (f.cut cut).isCancelled u = f.isCancelled u := by
  cases cut with
  | none => rfl
  | some t =>
    refine (f.isCancelled_cancel t u).trans ?_
    rw [List.contains_eq_mem, decide_eq_false (apart t rfl), Bool.or_false]

/-- What is cancelled once work has been called that may cancel its caller's token, and time may
have run out for it. Nothing is issued meanwhile. -/
theorem cancelled_of_called {f g : TokenForest} (same : g.cancelled = f.cancelled) (caller : Token)
    (cancels : Bool) (cut : Option Token) :
    ((if cancels then g.cancel caller else g).cut cut).issued = g.issued ∧
      ∀ id, id ∈ ((if cancels then g.cancel caller else g).cut cut).cancelled ↔
        (∃ t ∈ cut, t.id = id) ∨ (cancels = true ∧ id = caller.id) ∨ id ∈ f.cancelled := by
  constructor
  · cases cut <;> cases cancels <;> rfl
  · intro id
    rw [mem_cancelled_cut]
    cases cancels <;> simp [TokenForest.cancel, same]

end TokenForest

/-- The place of a grant in the tree of tokens: below the token of the caller, with the tokens of
the attempt in between. One of these is cancelled exactly if time has run out for the attempt. -/
structure Grant.Fits (f : TokenForest) (caller : Token) (g : Grant) : Prop where
  line : ∃ own, g.given.id :: g.given.above = own ++ caller.id :: caller.above ∧
    g.token.id ∈ own ∧ ∀ id ∈ own, g.token.id ≤ id ∧ id < f.issued
  older : ∀ id ∈ caller.id :: caller.above, id < g.token.id
  expired : g.expired = true ↔ ∃ id, g.Owns id ∧ id ∈ f.cancelled

namespace Grant

variable {f f' : TokenForest} {caller : Token} {g : Grant}

/-- The attempt's own token is one of its tokens, the outermost of them. -/
theorem Fits.owns_token (fits : g.Fits f caller) : g.Owns g.token.id := by
  obtain ⟨own, line, mem, -⟩ := fits.line
  exact ⟨line ▸ List.mem_append_left _ mem, Nat.le_refl _⟩

/-- All tokens above the one that was given have been issued. -/
theorem Fits.issued (fits : g.Fits f caller) :
    ∀ id ∈ g.given.id :: g.given.above, id < f.issued := by
  obtain ⟨own, line, mem, known⟩ := fits.line
  intro id member
  rw [line] at member
  rcases List.mem_append.mp member with new | old
  · exact (known id new).2
  · exact Nat.lt_trans (fits.older id old) (known _ mem).2

/-- The token that was given is cancelled if the caller's is, or if time has run out. Nothing else
stands above it. -/
theorem Fits.isCancelled_given (fits : g.Fits f caller) :
    f.isCancelled g.given = (f.isCancelled caller || g.expired) := by
  obtain ⟨own, line, -, known⟩ := fits.line
  rw [Bool.eq_iff_iff, Bool.or_eq_true, fits.expired]
  simp only [TokenForest.isCancelled, List.any_eq_true, List.contains_eq_mem, decide_eq_true_eq]
  constructor
  · rintro ⟨id, member, cancelled⟩
    rcases List.mem_append.mp (line ▸ member) with new | old
    · exact .inr ⟨id, ⟨member, (known id new).1⟩, cancelled⟩
    · exact .inl ⟨id, old, cancelled⟩
  · rintro (⟨id, old, cancelled⟩ | ⟨id, owns, cancelled⟩)
    · exact ⟨id, line ▸ List.mem_append_right _ old, cancelled⟩
    · exact ⟨id, owns.1, cancelled⟩

/-- An attempt that has been let in as far as a place owns its own token and those of the time
bounds around the place. -/
theorem owns_ofCall (n : Nat) (late : Bool) {a : Approach} {s : State}
    (below : a.Below (s.tokens.nextChild caller) s.issueToken) {t : Token}
    (own : t = s.tokens.nextChild caller ∨ t ∈ a.tokens) :
    (ofCall n s caller a late).Owns t.id := by
  rcases own with rfl | bound
  · refine ⟨?_, Nat.le_refl _⟩
    rw [ofCall, below.line]
    exact List.mem_append_right _ List.mem_cons_self
  · refine ⟨?_, Nat.le_of_succ_le (below.issued t bound).1⟩
    rw [ofCall, below.line]
    exact List.mem_append_left _ (List.mem_reverse.mpr (List.mem_map_of_mem bound))

/-- The place of the grant of an attempt that has just called its implementation. Its tokens are
new, so that none of them is cancelled unless time ran out in this very turn. -/
theorem Fits.ofCall {n : Nat} {a : Approach} {cut : Option Token} {cancels : Bool} {s : State}
    {canceller : Token} (sound : s.tokens.Sound)
    (known : ∀ id ∈ caller.id :: caller.above, id < s.tokens.issued)
    (knownToo : canceller.id < s.tokens.issued)
    (below : a.Below (s.tokens.nextChild caller) s.issueToken)
    (own : ∀ t ∈ cut, t = s.tokens.nextChild caller ∨ t ∈ a.tokens)
    (issued : f.issued = a.state.tokens.issued)
    (cancelled : ∀ id, id ∈ f.cancelled ↔
      (∃ t ∈ cut, t.id = id) ∨ (cancels = true ∧ id = canceller.id) ∨ id ∈ s.tokens.cancelled) :
    Fits f caller (.ofCall n s caller a cut.isSome) := by
  refine ⟨⟨(a.tokens.map (·.id)).reverse ++ [s.tokens.issued], ?_, ?_, ?_⟩, known, ?_⟩
  · rw [Grant.ofCall, below.line, List.append_assoc]
    rfl
  · exact List.mem_append_right _ List.mem_cons_self
  · intro id member
    rcases List.mem_append.mp member with bound | own
    · obtain ⟨t, among, rfl⟩ := List.mem_map.mp (List.mem_reverse.mp bound)
      obtain ⟨fresh, before⟩ := below.issued t among
      exact ⟨Nat.le_of_succ_le fresh, issued ▸ before⟩
    · rw [List.mem_singleton.mp own]
      exact ⟨Nat.le_refl _, issued ▸ below.calm.issued⟩
  · constructor
    · intro late
      obtain ⟨t, member⟩ := Option.isSome_iff_exists.mp late
      exact ⟨t.id, owns_ofCall n _ below (own t member), (cancelled _).mpr (.inl ⟨t, member, rfl⟩)⟩
    · rintro ⟨id, owns, gone⟩
      rcases (cancelled id).mp gone with ⟨t, member, -⟩ | ⟨-, rfl⟩ | before
      · exact Option.isSome_iff_exists.mpr ⟨t, member⟩
      · exact absurd knownToo (Nat.not_lt.mpr owns.2)
      · exact absurd (sound id before) (Nat.not_lt.mpr owns.2)

/-- A grant keeps its place as long as none of its tokens is cancelled. What is issued or cancelled
elsewhere does not concern it. -/
theorem Fits.mono (fits : g.Fits f caller) (issued : f.issued ≤ f'.issued)
    (same : ∀ id, g.Owns id → (id ∈ f'.cancelled ↔ id ∈ f.cancelled)) : g.Fits f' caller := by
  obtain ⟨own, line, mem, known⟩ := fits.line
  refine ⟨⟨own, line, mem, fun id new => ?_⟩, fits.older, fits.expired.trans ?_⟩
  · exact ⟨(known id new).1, Nat.lt_of_lt_of_le (known id new).2 issued⟩
  · exact exists_congr fun id => and_congr_right fun owns => (same id owns).symm

/-- A grant keeps its place when a token is cancelled that is none of the attempt's, the caller's
own among them. -/
theorem Fits.cancel (fits : g.Fits f caller) {t : Token} (other : ¬ g.Owns t.id) :
    g.Fits (f.cancel t) caller := by
  refine fits.mono (Nat.le_refl _) fun id owns => ?_
  refine ⟨fun cancelled => ?_, List.mem_cons_of_mem _⟩
  rcases List.mem_cons.mp cancelled with rfl | before
  · exact absurd owns other
  · exact before

/-- A turn of an attempt only changes whether time has run out for it. -/
theorem after_eq (g : Grant) (attempt : Attempt) (late : Bool) :
    (g.after attempt late).call = g.call ∧ (g.after attempt late).token = g.token ∧
      (g.after attempt late).given = g.given := by
  simp only [after]
  split <;> exact ⟨rfl, rfl, rfl⟩

/-- It owns the same tokens. -/
theorem owns_after (g : Grant) (attempt : Attempt) (late : Bool) (id : Nat) :
    (g.after attempt late).Owns id ↔ g.Owns id := by
  obtain ⟨-, token, given⟩ := g.after_eq attempt late
  rw [Owns, token, given, Owns]

/-- A turn in time changes nothing. -/
theorem after_inTime (g : Grant) (attempt : Attempt) : g.after attempt false = g := by
  simp only [after, Bool.or_false]
  split <;> rfl

/-- A grant of another attempt stays as it is. -/
theorem after_of_ne {attempt : Attempt} (other : g.token ≠ attempt.token) (late : Bool) :
    g.after attempt late = g := by
  simp only [after, other, if_false]

/-- When time runs out for the attempt, one of its tokens is cancelled: the attempt's own at the
deadline, or that of the time bound. -/
theorem Fits.expire (fits : g.Fits f caller) {attempt : Attempt} {t : Token}
    (token : g.token = attempt.token) (owns : g.Owns t.id) :
    (g.after attempt true).Fits (f.cancel t) caller := by
  obtain ⟨-, sameToken, sameGiven⟩ := g.after_eq attempt true
  have late : (g.after attempt true).expired = true := by
    simp only [after, token, if_true, Bool.or_true]
  refine ⟨?_, sameToken ▸ fits.older, ?_⟩
  · rw [sameToken, sameGiven]
    exact fits.line
  · simp only [late, true_iff]
    exact ⟨t.id, (g.owns_after attempt true t.id).mpr owns, List.mem_cons_self⟩

end Grant

end TrialRouting
