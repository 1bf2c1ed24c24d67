import TrialRouting.Proofs.Call.Attempts
import TrialRouting.Proofs.Overlap.Backdrop

/-!
# What a call leaves for the next

Calls that come one after another find the clock, the tokens, the circuits, the permits and the
backdrop as the calls before have left them. What has been written and counted does not matter
to them, nor do the scopes of earlier attempts. `State.standing` is what matters, and the lemmas
here say which of the things a call does show in it at all.
-/

namespace TrialRouting

/-- What one call leaves for the next to find. -/
structure Standing where
  now : Instant
  tokens : TokenForest
  circuits : List Circuits
  limiters : List Limiter
  backdrop : Backdrop

/-- What the next call finds. -/
def State.standing (s : State) : Standing where
  now := s.now
  tokens := s.tokens
  circuits := s.circuits
  limiters := s.limiters
  backdrop := s.backdrop

namespace State

/-! ### What does not show -/

@[simp] theorem standing_note (s : State) (n : Note) : (s.note n).standing = s.standing := rfl

@[simp] theorem standing_record (s : State) (e : Trace.Entry) :
    (s.record e).standing = s.standing := rfl

@[simp] theorem standing_emit (s : State) (span : Option Trace.Span) (e : Trace.Event) :
    (s.emit span e).standing = s.standing := rfl

@[simp] theorem standing_openSpan (s : State) (span : Trace.Span) (fields : List Trace.Field) :
    (s.openSpan span fields).standing = s.standing := rfl

@[simp] theorem standing_newPage (s : State) : s.newPage.standing = s.standing := rfl

@[simp] theorem standing_openScope (s : State) : s.openScope.standing = s.standing := rfl

@[simp] theorem standing_report (s : State) (provider : Telemetry.Provider)
    (span : Option Trace.Span) (scope : Telemetry.Scope) (r : Telemetry.Report) :
    (s.report provider span scope r).standing = s.standing := by
  cases provider with
  | tracing =>
    simp only [report]
    split <;> rfl
  | _ => rfl

/-- A catalog that offers the same is as good to the next call. -/
theorem standing_offers {s : State} {c : Catalog} (offers : s.catalog.Offers c) :
    ({ s with catalog := c } : State).standing = s.standing :=
  congrArg (Standing.mk s.now s.tokens s.circuits s.limiters) offers.backdrop_eq

/-- So is one that has built an implementation for a scope, -/
@[simp] theorem standing_afterResolution (s : State) (scope : Nat) (implementation : String) :
    (s.afterResolution (s.catalog.resolve scope implementation)).standing = s.standing :=
  standing_offers (s.catalog.offers_resolve scope implementation)

/-- one that has counted a request, -/
@[simp] theorem standing_countRequest (s : State) (made : Instance) :
    ({ s with catalog := s.catalog.countRequest made } : State).standing = s.standing :=
  standing_offers (s.catalog.offers_countRequest made)

/-- and one that has disposed a scope. -/
@[simp] theorem standing_dropGuard (s : State) (scope : Nat) :
    (s.dropGuard (.holding scope)).standing = s.standing :=
  standing_offers ((s.catalog.offers_dispose scope).trans
    ((s.catalog.dispose scope).offers_drop scope))

/-- The generator that random selection draws from is not part of the backdrop. -/
theorem standing_seed (s : State) (seed : UInt64) :
    ({ s with selector.seed := seed } : State).standing = s.standing := rfl

@[simp] theorem standing_afterAsking (s : State) (r : Registration) (method : String)
    (mode : Mode) : (s.afterAsking r method mode).standing = s.standing := by
  cases mode with
  | random =>
    have drawn : s.afterAsking r method .random =
        { s with selector.seed := Selector.nextSeed s.selector.seed } := rfl
    rw [drawn, standing_seed]
  | _ => rfl

/-- Asking for a key does not show, however the key is found. The mode may have been asked, and the
generator may have drawn. -/
@[simp] theorem standing_choose (s : State) (r : Registration) (method : String) :
    (s.choose r method).1.standing = s.standing := by
  simp only [choose]
  split
  · rfl
  · simp only [ask]
    split
    · rfl
    · split
      · exact standing_afterAsking _ r method _
      · exact standing_afterAsking _ r method _

/-! ### What shows -/

theorem standing_issueToken (s : State) :
    s.issueToken.standing = { s.standing with tokens := s.standing.tokens.issue } := rfl

theorem standing_cancel (s : State) (t : Token) :
    (s.cancel t).standing = { s.standing with tokens := s.standing.tokens.cancel t } := rfl

end State

namespace Router

variable (router : Router) (course : Course) (s : State)

@[simp] theorem standing_report (r : Telemetry.Report) :
    (router.report course r s).standing = s.standing :=
  State.standing_report ..

@[simp] theorem standing_finish (r : Telemetry.Report) :
    (router.finish course r s).standing = s.standing := by
  rw [finish, standing_report, standing_report]

@[simp] theorem standing_embark (call : Call) (selection : Selection) :
    (router.embark call selection s).1.standing = s.standing := by
  simp only [embark, standing_report]
  rfl

@[simp] theorem standing_noteExpiry (ending : Ending) :
    (noteExpiry course ending s).standing = s.standing := by
  unfold noteExpiry
  split <;> rfl

@[simp] theorem standing_reportFailure (o : Outcome) :
    (router.reportFailure course o s).standing = s.standing := by
  cases o with
  | ok v => rfl
  | error f => exact router.standing_report course s _

/-- Nor does it show that an attempt has ended and what follows it. All of that is reported or
written. -/
@[simp] theorem standing_conclude (call : Call) (ending : Ending) :
    (router.conclude call course ending s).1.standing = s.standing := by
  simp only [conclude]
  split
  · rfl
  · split
    · simp
    · split <;> simp

end Router

end TrialRouting
