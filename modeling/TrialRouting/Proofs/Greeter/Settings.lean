import TrialRouting.Greeter

/-!
# Settings of the greeter command

The settings that a command line asks for are in the range of the options: waiting times fit in
64 bits, and the number of calls in 32.
-/

namespace TrialRouting

namespace CommandLine

variable {σ : Type} {options : List (CommandOption σ)} {P : σ → Prop}

/-- An option that is given keeps what its values keep. One that is given twice is refused. -/
theorem give_keeps {o : CommandOption σ} {value : String} {p p' : Given σ}
    (kept : ∀ v s s', P s → o.assign v s = some s' → P s') (before : P p.2)
    (given : give o value p = .ok p') : P p'.2 := by
  simp only [give] at given
  split at given
  · cases given
  · split at given
    · next settings assigned =>
      cases given
      exact kept value p.2 settings before assigned
    · cases given

/-- So do all the arguments of a command line, by induction on them. -/
theorem readArguments_keeps (kept : ∀ o ∈ options, ∀ v s s', P s → o.assign v s = some s' → P s')
    {p p' : Given σ} {args : List String} (before : P p.2)
    (read : readArguments options p args = .ok p') : P p'.2 := by
  have listed {name : String} {o : CommandOption σ} (found : option? options name = some o) :
      ∀ v s s', P s → o.assign v s = some s' → P s' :=
    kept o (List.mem_of_find?_eq_some found)
  fun_induction readArguments options p args with
  | case1 | case3 => cases read; exact before
  | case13 _ _ _ _ _ found _ _ given _ _ _ ih =>
    exact ih (give_keeps (listed found) before given) read
  | case15 _ _ _ _ _ found _ _ _ _ given _ _ _ ih =>
    exact ih (give_keeps (listed found) before given) read
  | case18 _ _ _ _ _ found _ _ _ _ _ _ given _ _ _ ih =>
    exact ih (give_keeps (listed found) before given) read
  | _ => cases read

/-- So do the options that are taken from the environment where no argument has given them. -/
theorem readEnvironment_keeps {lookup : String → Option String}
    (kept : ∀ o ∈ options, ∀ v s s', P s → o.assign v s = some s' → P s') {p : Given σ}
    {settings : σ} (before : P p.2) (read : readEnvironment lookup options p = .ok settings) :
    P settings := by
  induction options generalizing p with
  | nil =>
    cases read
    exact before
  | cons o options ih =>
    obtain ⟨own, others⟩ := List.forall_mem_cons.mp kept
    simp only [readEnvironment] at read
    split at read
    · exact ih others before read
    · split at read
      · cases read
      · next given => exact ih others (give_keeps own before given) read

/-- Whatever a command line and an environment ask for, settings keep what each value of each
option keeps. -/
theorem read_keeps {lookup : String → Option String} {initial settings : σ} {args : List String}
    (kept : ∀ o ∈ options, ∀ v s s', P s → o.assign v s = some s' → P s') (before : P initial)
    (read : CommandLine.read options initial args lookup = .ok settings) : P settings := by
  simp only [CommandLine.read] at read
  split at read
  · cases read
  · next given => exact readEnvironment_keeps kept (readArguments_keeps kept before given) read

/-- A number of a command line is below its bound. -/
theorem natural?_lt {bound n : Nat} {text : String} (read : natural? bound text = some n) :
    n < bound := by
  simp only [natural?, Option.filter_eq_some_iff, decide_eq_true_eq] at read
  exact read.2

theorem integer?_lt {bound n : Nat} {text : String} (positive : 0 < bound)
    (read : integer? bound text = some n) : n < bound := by
  unfold integer? at read
  split at read
  · simp only [Option.filter_eq_some_iff, decide_eq_true_eq] at read
    omega
  · exact natural?_lt read

end CommandLine

namespace Greeter

/-- Settings in the range of their options. -/
structure Settings.InRange (settings : Settings) : Prop where
  friendlyDelay : settings.friendlyDelay < UInt64.size
  deadline : settings.deadline < UInt64.size
  calls : settings.calls < UInt32.size

/-- An option that reads a value of its own keeps the range if what it does with the value does. -/
theorem inRange_of_map {α : Type} {value : Option α} {f : α → Settings} {settings : Settings}
    (assigned : value.map f = some settings) (kept : ∀ x, value = some x → (f x).InRange) :
    settings.InRange := by
  obtain ⟨x, read, rfl⟩ := Option.map_eq_some_iff.mp assigned
  exact kept x read

/-- No value of any option leads out of range: one that is too large is no value of it. -/
theorem options_keep_range : ∀ o ∈ options, ∀ v s s', Settings.InRange s →
    o.assign v s = some s' → s'.InRange := by
  have positive : 0 < UInt32.size := by decide
  simp only [options, List.forall_mem_cons]
  refine ⟨?newGreeting, ?friendlyFails, ?friendlyDelay, ?deadline, ?trialFile, ?name, ?calls, ?json,
    ?logLevel, nofun⟩ <;> intro v s s' before assigned
  case friendlyDelay =>
    exact inRange_of_map assigned fun n read => ⟨CommandLine.natural?_lt read, before.2, before.3⟩
  case deadline =>
    exact inRange_of_map assigned fun n read => ⟨before.1, CommandLine.natural?_lt read, before.3⟩
  case calls =>
    exact inRange_of_map assigned fun n read =>
      ⟨before.1, before.2, CommandLine.integer?_lt positive read⟩
  case trialFile =>
    split at assigned
    · cases assigned
    · cases assigned
      exact ⟨before.1, before.2, before.3⟩
  case name | logLevel =>
    cases assigned
    exact ⟨before.1, before.2, before.3⟩
  all_goals exact inRange_of_map assigned fun _ _ => ⟨before.1, before.2, before.3⟩

/-- Settings that have been read are in range, whatever the command line and the environment. -/
theorem inRange_of_read {args : List String} {environment : String → Option String}
    {settings : Settings} (read : Settings.read args environment = .ok settings) :
    settings.InRange :=
  CommandLine.read_keeps options_keep_range ⟨by decide, by decide, by decide⟩ read

end Greeter

end TrialRouting
