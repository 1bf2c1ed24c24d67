import TrialRouting.State

/-!
# Schedule

Several activities run on one thread in virtual time. At an instant every activity
that is due gets on as far as it can, in list order; then the tokens whose
cancellation is due are cancelled, and if that (or an activity itself) cancelled the
token of an activity, all of them get another turn at the same instant. Once nothing
can go on the clock jumps to the next instant at which something is due.

An activity that is abandoned gets its turn first, so work that is done by then
counts.
-/

namespace TrialRouting

/-- Where an activity is after a turn. -/
inductive Step (σ ρ : Type) where
  | running (rest : σ)
  | finished (result : ρ)

/-- How activities of one kind run. -/
structure Conduct (α σ ρ : Type) where
  start : α → State → State × Step σ ρ
  resume : α → σ → State → State × Step σ ρ
  /-- The activity is taken down. -/
  abandon : α → σ → State → State
  /-- Instants at which it has something to do. -/
  timers : σ → List Instant

/-- The status of an activity. -/
inductive Status (σ ρ : Type) where
  | waiting
  | running (rest : σ)
  /-- It ended at an instant, with a result unless it was abandoned. -/
  | ended (instant : Instant) (result : Option ρ)

/-- An activity with the instants at which others step in. -/
structure Activity (α σ ρ : Type) where
  request : α
  /-- The token that others may cancel. -/
  token : Token
  startAt : Instant
  cancelAt : Option Instant
  abandonAt : Instant
  status : Status σ ρ := .waiting

/-- How a caller watches over an activity. Times count from the start of the activity,
    and that from the present. -/
structure Supervision where
  startAfter : Nat := 0
  /-- Whether its token is cancelled before it starts. -/
  precancelled : Bool := false
  cancelAfter : Option Nat := none
  abandonAfter : Nat := 3600000
  deriving DecidableEq, Repr, Inhabited

namespace Supervision

/-- The token of the activity, issued now. -/
def issue (v : Supervision) (s : State) : State × Token :=
  let token := s.tokens.nextRoot
  let s := s.issueToken
  (if v.precancelled then s.cancel token else s, token)

/-- The activity that answers a request under such supervision. -/
def activity {α σ ρ : Type} (v : Supervision) (request : α) (token : Token) (now : Instant) :
    Activity α σ ρ where
  request
  token
  startAt := now + v.startAfter
  cancelAt := v.cancelAfter.map (now + v.startAfter + ·)
  abandonAt := now + v.startAfter + v.abandonAfter

end Supervision

namespace Activity

variable {α σ ρ : Type}

/-- Whether the activity has come to its end. -/
def hasEnded (a : Activity α σ ρ) : Bool :=
  match a.status with
  | .ended _ _ => true
  | _ => false

/-- The activity after a turn; if it is still running when it is to be abandoned, it
    is taken down. -/
def afterTurn (p : Conduct α σ ρ) (a : Activity α σ ρ) (turn : State × Step σ ρ) :
    State × Activity α σ ρ :=
  match turn with
  | (s, .finished result) => (s, { a with status := .ended s.now (some result) })
  | (s, .running rest) =>
      if a.abandonAt ≤ s.now then
        (p.abandon a.request rest s, { a with status := .ended s.now none })
      else (s, { a with status := .running rest })

/-- The result, and how long it took; an abandoned activity has no result. -/
def ending (a : Activity α σ ρ) : Option ρ × Nat :=
  match a.status with
  | .ended instant result => (result, instant - a.startAt)
  | _ => (none, 0)

/-- One turn. -/
def turn (p : Conduct α σ ρ) (a : Activity α σ ρ) (s : State) : State × Activity α σ ρ :=
  match a.status with
  | .ended _ _ => (s, a)
  | .waiting => if a.startAt ≤ s.now then a.afterTurn p (p.start a.request s) else (s, a)
  | .running rest => a.afterTurn p (p.resume a.request rest s)

/-- The cancellation from outside, if it is due. -/
def applyCancel (a : Activity α σ ρ) (s : State) : State × Activity α σ ρ :=
  match a.status, a.cancelAt with
  | .running _, some due =>
      if due ≤ s.now then (s.cancel a.token, { a with cancelAt := none }) else (s, a)
  | _, _ => (s, a)

/-- Instants at which the activity may have to be looked at. -/
def instants (p : Conduct α σ ρ) (a : Activity α σ ρ) : List Instant :=
  match a.status with
  | .waiting => [a.startAt]
  | .running rest => a.abandonAt :: (a.cancelAt.toList ++ p.timers rest)
  | .ended _ _ => []

end Activity

namespace Schedule

variable {α σ ρ : Type}

/-- Each activity in turn. -/
def each (f : Activity α σ ρ → State → State × Activity α σ ρ) :
    List (Activity α σ ρ) → State → State × List (Activity α σ ρ)
  | [], s => (s, [])
  | a :: rest, s =>
      let first := f a s
      let others := each f rest first.1
      (others.1, first.2 :: others.2)

/-- How many activities have a token that is cancelled. -/
def cancelledCount (as : List (Activity α σ ρ)) (s : State) : Nat :=
  (as.filter fun a => s.isCancelled a.token).length

/-- One round: everybody's turn, then the cancellations from outside. -/
def round (p : Conduct α σ ρ) (as : List (Activity α σ ρ)) (s : State) :
    State × List (Activity α σ ρ) :=
  let turned := each (fun a s => a.turn p s) as s
  each (fun a s => a.applyCancel s) turned.2 turned.1

/-- Rounds at one instant until no more tokens get cancelled; each but the last
    cancels the token of another activity. -/
def rounds (p : Conduct α σ ρ) : Nat → List (Activity α σ ρ) → State →
    State × List (Activity α σ ρ)
  | 0, as, s => (s, as)
  | more + 1, as, s =>
      let after := round p as s
      if cancelledCount as s < cancelledCount after.2 after.1 then
        rounds p more after.2 after.1
      else after

/-- The next instant at which something is due. -/
def nextInstant? (p : Conduct α σ ρ) (as : List (Activity α σ ρ)) (now : Instant) :
    Option Instant :=
  ((as.flatMap (·.instants p)).filter (now < ·)).min?

/-- Instant after instant until nothing is due any more; each is later than the one
    before. -/
def instants (p : Conduct α σ ρ) : Nat → List (Activity α σ ρ) → State →
    State × List (Activity α σ ρ)
  | 0, as, s => (s, as)
  | more + 1, as, s =>
      let settled := rounds p (as.length + 1) as s
      match nextInstant? p settled.2 settled.1.now with
      | none => settled
      | some due => instants p more settled.2 { settled.1 with now := due }

/-- Runs activities until all have ended. Nothing is due after the last of them is to
    be abandoned. -/
def run (p : Conduct α σ ρ) (as : List (Activity α σ ρ)) (s : State) :
    State × List (Activity α σ ρ) :=
  let last := (as.map fun a => max a.startAt a.abandonAt).max?.getD s.now
  instants p (last - s.now + 1) as s

end Schedule

end TrialRouting
