import TrialRouting.Json.Basic

/-!
# Command lines

A command takes options with long names. An option either takes a value, attached by
an equals sign or in the next argument, or is a switch. What the command line leaves
out may be set by an environment variable. Arguments are read in order, and the first
one out of place ends the reading: an unknown option, an option given twice, a value
that is missing, refused or not wanted, an argument that is no option. Asking for the
help or the version ends the reading too, at the place where it is asked.
-/

namespace TrialRouting

/-- An option of a command that keeps its settings in `σ`. -/
structure CommandOption (σ : Type) where
  name : String
  /-- What the value stands for; a switch has none. -/
  value : Option String := none
  /-- The variable that sets the option when the command line does not. -/
  setBy : Option String := none
  /-- What the help says about it. -/
  purpose : String
  /-- The settings with a value, if it is one the option takes. -/
  assign : String → σ → Option σ

/-- Why a command line leads to no settings. -/
inductive Parting where
  | misuse
  | help
  | version
  deriving DecidableEq, Repr

namespace CommandLine

/-! ### Values -/

/-- A number in decimal digits. -/
def digits? (digits : List Char) : Option Nat :=
  if digits.isEmpty || !digits.all (·.isDigit) then none
  else some (digitsValue digits)

/-- A whole number below a bound, perhaps with a plus sign. -/
def natural? (bound : Nat) (text : String) : Option Nat :=
  (match text.toList with
    | '+' :: digits => digits? digits
    | digits => digits? digits).filter (· < bound)

/-- A whole number from zero to below a bound; zero may have a minus sign. -/
def integer? (bound : Nat) (text : String) : Option Nat :=
  match text.toList with
  | '-' :: digits => (digits? digits).filter (· = 0)
  | _ => natural? bound text

/-- The setting of a switch. -/
def switch? : String → Option Bool
  | "true" => some true
  | "false" => some false
  | _ => none

/-! ### Arguments -/

/-- What an argument looks like. -/
inductive Argument where
  /-- An option, perhaps with its value attached. -/
  | long (name : String) (attached : Option String)
  /-- One-letter options, by the first letter. -/
  | short (letter : Char)
  /-- Two dashes, which end the options. -/
  | stop
  | plain (text : String)
  deriving DecidableEq, Repr

/-- An argument by its looks. A single dash is plain. -/
def Argument.ofString (text : String) : Argument :=
  match text.toList with
  | ['-', '-'] => .stop
  | '-' :: '-' :: rest =>
      let name := String.ofList (rest.takeWhile (· ≠ '='))
      match rest.dropWhile (· ≠ '=') with
      | _ :: value => .long name (some (String.ofList value))
      | [] => .long name none
  | '-' :: letter :: _ => .short letter
  | _ => .plain text

/-- The value in the next argument, which must be plain, and the arguments after it. -/
def nextValue? : List String → Option (String × List String)
  | [] => none
  | text :: rest =>
      match Argument.ofString text with
      | .plain value => some (value, rest)
      | _ => none

/-- A value in the next argument leaves fewer arguments. -/
theorem length_of_nextValue? {args rest : List String} {value : String}
    (found : nextValue? args = some (value, rest)) : rest.length < args.length := by
  cases args with
  | nil => simp [nextValue?] at found
  | cons text others =>
    simp only [nextValue?] at found
    split at found
    · simp only [Option.some.injEq, Prod.mk.injEq] at found
      simp [← found.2]
    · simp at found

variable {σ : Type}

/-- The option of a name. -/
def option? (options : List (CommandOption σ)) (name : String) : Option (CommandOption σ) :=
  options.find? (·.name == name)

/-- What has been given so far: the names, and the settings. -/
abbrev Given (σ : Type) := List String × σ

/-- An option given with a value; it must not have been given before. -/
def give (o : CommandOption σ) (value : String) (p : Given σ) :
    Except Parting (Given σ) :=
  if p.1.contains o.name then .error .misuse
  else match o.assign value p.2 with
    | some settings => .ok (o.name :: p.1, settings)
    | none => .error .misuse

/-- The arguments, in order. -/
def readArguments (options : List (CommandOption σ)) (p : Given σ) :
    List String → Except Parting (Given σ)
  | [] => .ok p
  | text :: rest =>
      match Argument.ofString text with
      | .plain _ => .error .misuse
      | .stop => if rest.isEmpty then .ok p else .error .misuse
      | .short 'h' => .error .help
      | .short 'V' => .error .version
      | .short _ => .error .misuse
      | .long "help" none => .error .help
      | .long "version" none => .error .version
      | .long name attached =>
          match option? options name with
          | none => .error .misuse
          | some o =>
              match o.value, attached with
              | none, some _ => .error .misuse
              | none, none =>
                  match give o "true" p with
                  | .error e => .error e
                  | .ok p => readArguments options p rest
              | some _, some value =>
                  match give o value p with
                  | .error e => .error e
                  | .ok p => readArguments options p rest
              | some _, none =>
                  match _found : nextValue? rest with
                  | none => .error .misuse
                  | some (value, others) =>
                      match give o value p with
                      | .error e => .error e
                      | .ok p => readArguments options p others
termination_by args => args.length
decreasing_by
  · simp
  · simp
  · have := length_of_nextValue? ‹_›
    simp only [List.length_cons]
    omega

/-- The options that the command line left out, from the environment. -/
def readEnvironment (lookup : String → Option String) :
    List (CommandOption σ) → Given σ → Except Parting σ
  | [], p => .ok p.2
  | o :: rest, p =>
      match (if p.1.contains o.name then none else o.setBy.bind lookup) with
      | none => readEnvironment lookup rest p
      | some value =>
          match give o value p with
          | .error e => .error e
          | .ok p => readEnvironment lookup rest p

/-- The settings that a command line and an environment ask for. -/
def read (options : List (CommandOption σ)) (initial : σ) (args : List String)
    (lookup : String → Option String) : Except Parting σ :=
  match readArguments options ([], initial) args with
  | .error e => .error e
  | .ok p => readEnvironment lookup options p

/-! ### Help -/

/-- One line of the help. -/
def helpLine (o : CommandOption σ) : String :=
  let call := "--" ++ o.name ++ (o.value.elim "" fun value => " <" ++ value ++ ">")
  "      " ++ call ++ "\n          " ++ o.purpose
    ++ (o.setBy.elim "" fun setter => " [env: " ++ setter ++ "]")

end CommandLine

end TrialRouting
