import TrialRouting.Attempt.Flight

/-!
# Layers around a service

A pipeline is a service wrapped into one layer after the other. A service is entered once for an
attempt, resumed as long as it waits, and taken down if nobody waits for it any more; what it waits
with is its own affair. A layer is a decorator: it may wait before it calls the service inside it,
call it once or answer without it, give it up while it waits, and take its time after it has
answered.

Footprints say what has been entered, left and dropped on the way, and in which order. In every
whole run of a chain of layers they are those of an onion: the layers are entered from the first
one on, and left in the reverse order, each with what the one inside it has answered.
-/

namespace TrialRouting

/-- What an attempt leaves behind on its way through a chain. -/
inductive Footprint where
  | entered (place : Nat)
  /-- A layer answers; before, it has received the answer of its inside, if that has answered. -/
  | left (place : Nat) (received : Option Outcome) (answer : Outcome)
  /-- A layer is taken down before it has answered. -/
  | dropped (place : Nat)
  /-- The work starts. -/
  | called

/-- What entering or resuming a service comes to. -/
structure Turn (W : Type) where
  state : State
  reply : Outcome ⊕ W
  prints : List Footprint

/-- A stage of a chain. -/
structure Service where
  /-- What it waits with. -/
  Waiting : Type
  enter : Option Trace.Span → Token → State → Turn Waiting
  resume : Option Trace.Span → Waiting → State → Turn Waiting
  abandon : Waiting → State → State × List Footprint

namespace Layer

/-- What a decorator does next on the way in. -/
inductive Move (Before Inside : Type) where
  /-- It answers by itself. -/
  | answer (outcome : Outcome)
  | wait (own : Before)
  /-- It calls the service inside it under a token. -/
  | next (own : Inside) (token : Token)

/-- What a decorator holds, before its inside has been called, while it runs, and afterwards. -/
inductive Hold (Before Inside After : Type) where
  | before (own : Before)
  | inside (own : Inside)
  | after (own : After)

end Layer

/-- A decorator. -/
structure Layer where
  Before : Type
  Inside : Type
  After : Type
  enter : Option Trace.Span → Token → State → State × Layer.Move Before Inside
  /-- It is resumed before it has called the service inside it. -/
  wake : Option Trace.Span → Before → State → State × Layer.Move Before Inside
  /-- The innermost span inside it. -/
  span : Inside → Option Trace.Span → Option Trace.Span
  /-- Its inside has answered. -/
  receive : Option Trace.Span → Inside → Outcome → State → State × (Outcome ⊕ After)
  /-- It is resumed after its inside has answered. -/
  finish : Option Trace.Span → After → State → State × (Outcome ⊕ After)
  /-- Whether it gives up its inside, which still waits, and what it answers once that has been
  taken down. -/
  expire? : Inside → State → Option (Option Trace.Span → State → State × Outcome)
  /-- It is taken down, its inside having been taken down before. -/
  release : Layer.Hold Before Inside After → State → State

namespace Layer

/-- What a decorator around a service waits with. -/
inductive Waiting (l : Layer) (W : Type) where
  | before (own : l.Before)
  | around (own : l.Inside) (inner : W)
  | after (own : l.After) (received : Outcome)

variable (place : Nat) (l : Layer) (s : Service)

/-- What a decorator makes of its inside. -/
def around (span : Option Trace.Span) (own : l.Inside) (inside : Turn s.Waiting) :
    Turn (l.Waiting s.Waiting) :=
  match inside.reply with
  | .inl received =>
      match l.receive span own received inside.state with
      | (u, .inl answer) => ⟨u, .inl answer, inside.prints ++ [.left place (some received) answer]⟩
      | (u, .inr after) => ⟨u, .inr (.after after received), inside.prints⟩
  | .inr inner =>
      match l.expire? own inside.state with
      | none => ⟨inside.state, .inr (.around own inner), inside.prints⟩
      | some expire =>
          let down := s.abandon inner inside.state
          let expired := expire span down.1
          ⟨expired.1, .inl expired.2, inside.prints ++ down.2 ++ [.left place none expired.2]⟩

/-- A decorator gets on by a move on the way in. -/
def follow (span : Option Trace.Span) : State × Move l.Before l.Inside → Turn (l.Waiting s.Waiting)
  | (u, .answer answer) => ⟨u, .inl answer, [.left place none answer]⟩
  | (u, .wait own) => ⟨u, .inr (.before own), []⟩
  | (u, .next own token) => l.around place s span own (s.enter (l.span own span) token u)

/-- A service inside a decorator. -/
def wrap : Service where
  Waiting := l.Waiting s.Waiting
  enter span token u :=
    let turn := l.follow place s span (l.enter span token u)
    { turn with prints := .entered place :: turn.prints }
  resume span waiting u :=
    match waiting with
    | .before own => l.follow place s span (l.wake span own u)
    | .around own inner => l.around place s span own (s.resume (l.span own span) inner u)
    | .after own received =>
        match l.finish span own u with
        | (u, .inl answer) => ⟨u, .inl answer, [.left place (some received) answer]⟩
        | (u, .inr after) => ⟨u, .inr (.after after received), []⟩
  abandon waiting u :=
    match waiting with
    | .before own => (l.release (.before own) u, [.dropped place])
    | .around own inner =>
        let down := s.abandon inner u
        (l.release (.inside own) down.1, down.2 ++ [.dropped place])
    | .after own _ => (l.release (.after own) u, [.dropped place])

end Layer

/-- A service inside decorators, the first of which is the outermost; their places are counted from
a number on. -/
def chain (place : Nat) : List Layer → Service → Service
  | [], terminal => terminal
  | l :: layers, terminal => l.wrap place (chain (place + 1) layers terminal)

/-- Decorators around a chain are around the chain's decorators, so that a chain may be split
anywhere. The places go on counting where those in front have stopped. -/
theorem chain_append (place : Nat) (outer inner : List Layer) (terminal : Service) :
    chain place (outer ++ inner) terminal =
      chain place outer (chain (place + outer.length) inner terminal) := by
  induction outer generalizing place with
  | nil => rfl
  | cons l outer ih =>
    rw [List.cons_append, chain, ih, chain, List.length_cons, Nat.add_assoc, Nat.add_comm 1]

/-! ### Runs -/

namespace Service

variable {s : Service}

/-- The turns of an attempt that enters a service and is resumed as long as it waits, each turn in
whatever state and span it finds; with all footprints so far and what it has come to. -/
inductive Runs (s : Service) : List Footprint → Outcome ⊕ s.Waiting → Prop where
  | entered (span : Option Trace.Span) (token : Token) (u : State) :
      Runs s (s.enter span token u).prints (s.enter span token u).reply
  | resumed {prints : List Footprint} {waiting : s.Waiting} (before : Runs s prints (.inr waiting))
      (span : Option Trace.Span) (u : State) :
      Runs s (prints ++ (s.resume span waiting u).prints) (s.resume span waiting u).reply

/-- A whole run: it has answered, or it has been taken down while it waited. -/
inductive Ends (s : Service) : List Footprint → Option Outcome → Prop where
  | answered {prints : List Footprint} {answer : Outcome} (run : s.Runs prints (.inl answer)) :
      Ends s prints (some answer)
  | takenDown {prints : List Footprint} {waiting : s.Waiting} (run : s.Runs prints (.inr waiting))
      (u : State) : Ends s (prints ++ (s.abandon waiting u).2) none

end Service

namespace Layer

variable {place : Nat} {l : Layer} {s : Service} {prints inner : List Footprint}

/-- Where a run through a decorator stands, and what has become of the service inside it. -/
inductive Stands (place : Nat) (l : Layer) (s : Service) :
    List Footprint → Outcome ⊕ l.Waiting s.Waiting → Prop where
  | before (own : l.Before) : Stands place l s [.entered place] (.inr (.before own))
  | around {inner : List Footprint} {waiting : s.Waiting} (own : l.Inside)
      (run : s.Runs inner (.inr waiting)) :
      Stands place l s (.entered place :: inner) (.inr (.around own waiting))
  | after {inner : List Footprint} {received : Outcome} (own : l.After)
      (run : s.Runs inner (.inl received)) :
      Stands place l s (.entered place :: inner) (.inr (.after own received))
  /-- It has answered without its inside. -/
  | byItself (answer : Outcome) :
      Stands place l s [.entered place, .left place none answer] (.inl answer)
  /-- It has answered once its inside had answered, or had been given up and taken down. -/
  | handedOn {inner : List Footprint} {received : Option Outcome} (answer : Outcome)
      (run : s.Ends inner received) :
      Stands place l s (.entered place :: (inner ++ [.left place received answer])) (.inl answer)

/-- What a decorator makes of its inside: it still waits around it, it has taken what the inside has
answered, or it has given it up and taken it down. Each of these is one of the ways in which a run
through it can stand. -/
theorem stands_around (span : Option Trace.Span) (own : l.Inside) {inside : Turn s.Waiting}
    (run : s.Runs (inner ++ inside.prints) inside.reply) :
    Stands place l s (.entered place :: (inner ++ (l.around place s span own inside).prints))
      (l.around place s span own inside).reply := by
  obtain ⟨u, reply, prints⟩ := inside
  cases reply with
  | inl received =>
    simp only [Layer.around]
    split
    · next answer _ =>
      rw [← List.append_assoc]
      exact .handedOn answer (.answered run)
    · next after _ => exact .after after run
  | inr waiting =>
    simp only [Layer.around]
    split
    · exact .around own run
    · next expire _ =>
      rw [← List.append_assoc, ← List.append_assoc]
      exact .handedOn _ (.takenDown run u)

/-- What becomes of a decorator that gets on by a move on the way in. If it answers, its inside is
never entered; if it calls its inside, a run of that begins. -/
theorem stands_follow (span : Option Trace.Span) (moved : State × Move l.Before l.Inside) :
    Stands place l s (.entered place :: (l.follow place s span moved).prints)
      (l.follow place s span moved).reply := by
  obtain ⟨u, move⟩ := moved
  cases move with
  | answer answer => exact .byItself answer
  | wait own => exact .before own
  | next own token =>
    have run : s.Runs ([] ++ (s.enter (l.span own span) token u).prints)
      (s.enter (l.span own span) token u).reply := .entered (l.span own span) token u
    exact stands_around span own run

/-- Where a run through a decorator stands. The induction follows the turns of the run: entering
begins with a move on the way in, and every further turn is a move again, a turn of the inside, or a
turn after it. -/
theorem stands_of_runs {reply : Outcome ⊕ (l.wrap place s).Waiting}
    (run : (l.wrap place s).Runs prints reply) : Stands place l s prints reply := by
  induction run with
  | entered span token u => exact stands_follow span (l.enter span token u)
  | @resumed prints waiting before span u ih =>
    cases ih with
    | before own => exact stands_follow span (l.wake span own u)
    | @around inner waiting own run =>
      exact stands_around span own (run.resumed (l.span own span) u)
    | @after inner received own run =>
      simp only [wrap]
      split
      · next answer _ => exact .handedOn answer (.answered run)
      · next after _ =>
        rw [List.append_nil]
        exact .after after run

/-- How a whole run through a decorator goes: either it never calls its inside, or there is a whole
run of the inside, and all the decorator adds is that it is entered before and left or dropped
afterwards. This is the one fact about a single decorator from which the onion is made. -/
theorem ends_cases {final : Option Outcome} (run : (l.wrap place s).Ends prints final) :
    (prints = [.entered place, .dropped place] ∧ final = none ∨
      ∃ answer, prints = [.entered place, .left place none answer] ∧ final = some answer) ∨
    ∃ inner received, s.Ends inner received ∧
      (prints = .entered place :: (inner ++ [.dropped place]) ∧ final = none ∨
        ∃ answer, prints = .entered place :: (inner ++ [.left place received answer]) ∧
          final = some answer) := by
  cases run with
  | answered run =>
    cases stands_of_runs run with
    | byItself => exact .inl (.inr ⟨_, rfl, rfl⟩)
    | handedOn _ inside => exact .inr ⟨_, _, inside, .inr ⟨_, rfl, rfl⟩⟩
  | takenDown run u =>
    cases stands_of_runs run with
    | before own => exact .inl (.inl ⟨rfl, rfl⟩)
    | around own inside =>
      refine .inr ⟨_, none, .takenDown inside u, .inl ⟨?_, rfl⟩⟩
      rw [List.append_assoc]
      rfl
    | after own inside => exact .inr ⟨_, _, .answered inside, .inl ⟨rfl, rfl⟩⟩

end Layer

/-! ### The onion -/

/-- The way out past some places, from the inside out: each layer is left with what it has received
from inside it, if it has received anything, and what it answers is what the next one receives. A
layer that is dropped passes nothing on, so the one around it is dropped too, or answers without
having received anything. -/
inductive HandsOn : List Nat → Option Outcome → List Footprint → Option Outcome → Prop where
  | out (final : Option Outcome) : HandsOn [] final [] final
  | left {place : Nat} {places : List Nat} {received final : Option Outcome} {answer : Outcome}
      {outwards : List Footprint} (rest : HandsOn places (some answer) outwards final) :
      HandsOn (place :: places) received (.left place received answer :: outwards) final
  | dropped {place : Nat} {places : List Nat} {received final : Option Outcome}
      {outwards : List Footprint} (rest : HandsOn places none outwards final) :
      HandsOn (place :: places) received (.dropped place :: outwards) final

namespace HandsOn

variable {place : Nat} {places : List Nat} {received next : Option Outcome}
  {outwards : List Footprint}

/-- One more layer around them is left with what they have handed on. -/
theorem concat_left (inside : HandsOn places received outwards next) (answer : Outcome) :
    HandsOn (places ++ [place]) received (outwards ++ [.left place next answer]) (some answer) := by
  induction inside with
  | out final => exact .left (.out _)
  | left rest ih => exact .left ih
  | dropped rest ih => exact .dropped ih

/-- Or it is dropped. -/
theorem concat_dropped (inside : HandsOn places received outwards next) :
    HandsOn (places ++ [place]) received (outwards ++ [.dropped place]) none := by
  induction inside with
  | out final => exact .dropped (.out _)
  | left rest ih => exact .left ih
  | dropped rest ih => exact .dropped ih

end HandsOn

/-- The footprints of an onion of layers around a core, with what it has come to: the layers are
entered from the first one on, and left or dropped in exactly the reverse order. Either all of them
are entered, and the core is in the middle; or one of them does not call what is inside it, and
then neither a later layer nor the core is there at all. -/
inductive Onion (Core : List Footprint → Option Outcome → Prop) (first depth : Nat) :
    List Footprint → Option Outcome → Prop where
  | through {core outwards : List Footprint} {answer final : Option Outcome}
      (whole : Core core answer)
      (out : HandsOn (List.range' first depth).reverse answer outwards final) :
      Onion Core first depth ((List.range' first depth).map .entered ++ core ++ outwards) final
  /-- The `n`-th layer, counted from zero, is the last one that is entered. -/
  | stopped {n : Nat} {outwards : List Footprint} {final : Option Outcome} (inside : n < depth)
      (out : HandsOn (List.range' first (n + 1)).reverse none outwards final) :
      Onion Core first depth ((List.range' first (n + 1)).map .entered ++ outwards) final

namespace Onion

variable {Core : List Footprint → Option Outcome → Prop} {first depth : Nat}
  {prints : List Footprint} {received : Option Outcome}

/-- One more layer around an onion, which hands on what it has received or keeps it. It is entered
before all others and left after them, so that the way in grows at its front and the way out at its
end. -/
theorem wrap {exit : Footprint} {final : Option Outcome}
    (inside : Onion Core (first + 1) depth prints received)
    (leaves : ∀ {places : List Nat} {core : Option Outcome} {outwards : List Footprint},
      HandsOn places core outwards received →
        HandsOn (places ++ [first]) core (outwards ++ [exit]) final) :
    Onion Core first (depth + 1) (.entered first :: (prints ++ [exit])) final := by
  cases inside with
  | through whole out =>
    have further := leaves out
    rw [← List.reverse_cons, ← List.range'_succ] at further
    have onion := Onion.through whole further
    rw [List.range'_succ, List.map_cons] at onion
    simpa only [List.cons_append, List.append_assoc] using onion
  | stopped inner out =>
    have further := leaves out
    rw [← List.reverse_cons, ← List.range'_succ] at further
    have onion : Onion Core first (depth + 1) _ final := .stopped (Nat.succ_lt_succ inner) further
    rw [List.range'_succ, List.map_cons] at onion
    simpa only [List.cons_append, List.append_assoc] using onion

end Onion

/-- Every whole run of a chain is an onion of its layers around a whole run of the terminal.

Proof: induction follows the layers. By what is known of a single decorator, the first one either
keeps the attempt to itself, or encloses a whole run of the chain inside it; the layers of that
chain are an onion by themselves, and the first one is wrapped around it. -/
theorem onion_of_ends {layers : List Layer} {terminal : Service} {place : Nat}
    {prints : List Footprint} {final : Option Outcome}
    (run : (chain place layers terminal).Ends prints final) :
    Onion terminal.Ends place layers.length prints final := by
  induction layers generalizing place prints final with
  | nil =>
    have onion : Onion terminal.Ends place 0 ([] ++ prints ++ []) final :=
      .through run (.out final)
    rwa [List.nil_append, List.append_nil] at onion
  | cons l layers ih =>
    rcases Layer.ends_cases run
      with (⟨rfl, rfl⟩ | ⟨answer, rfl, rfl⟩) | ⟨inner, received, inside, how⟩
    · exact .stopped (Nat.zero_lt_succ _) (.dropped (.out none))
    · exact .stopped (Nat.zero_lt_succ _) (.left (.out (some answer)))
    · rcases how with ⟨rfl, rfl⟩ | ⟨answer, rfl, rfl⟩
      · exact (ih inside).wrap fun out => out.concat_dropped
      · exact (ih inside).wrap fun out => out.concat_left answer

end TrialRouting
