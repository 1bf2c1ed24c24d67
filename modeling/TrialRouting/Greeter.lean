import TrialRouting.CommandLine
import TrialRouting.Definition.Json
import TrialRouting.Router

/-!
# The greeter

A command that routes greetings between two implementations, so that fallbacks and
deadlines can be watched at work. The classic greeter always answers; the friendly
one can be told to fail or to take its time. A flag chooses between them, under a
built-in trial or one read from a file.
-/

namespace TrialRouting.Greeter

/-- Name of the command. -/
def commandName : String := "switchyard-demo"

/-- The flag that the built-in trial selects by. -/
def flagName : String := "new-greeting"

/-- What the command has been asked to do. -/
structure Settings where
  newGreeting : Bool := false
  friendlyFails : Bool := false
  /-- Milliseconds the friendly greeter takes. -/
  friendlyDelay : Nat := 0
  /-- Deadline of the built-in trial, in milliseconds. -/
  deadline : Nat := 200
  /-- File with a trial to use in place of the built-in one. -/
  trialFile : Option String := none
  name : String := "world"
  calls : Nat := 1
  /-- How log records would be laid out; the command itself prints greetings only. -/
  json : Bool := false
  /-- Which log records would be kept. -/
  logLevel : String := "info"
  deriving Repr, DecidableEq

/-- The options of the command. -/
def options : List (CommandOption Settings) := [
  { name := "new-greeting", setBy := some "SWITCHYARD_NEW_GREETING"
    purpose := "State of the `new-greeting` flag"
    assign := fun v s => (CommandLine.switch? v).map fun b => { s with newGreeting := b } },
  { name := "friendly-fails"
    purpose := "Make the friendly greeter return an error"
    assign := fun v s => (CommandLine.switch? v).map fun b => { s with friendlyFails := b } },
  { name := "friendly-delay-ms", value := some "FRIENDLY_DELAY_MS"
    purpose := "Delay the friendly greeter by this many milliseconds"
    assign := fun v s =>
      (CommandLine.natural? UInt64.size v).map fun n => { s with friendlyDelay := n } },
  { name := "timeout-ms", value := some "TIMEOUT_MS"
    purpose := "Deadline for the routed call before falling back to the default"
    assign := fun v s =>
      (CommandLine.natural? UInt64.size v).map fun n => { s with deadline := n } },
  { name := "trial", value := some "TRIAL", setBy := some "SWITCHYARD_TRIAL"
    purpose := "JSON trial definition to use instead of the built-in one"
    assign := fun v s => if v.isEmpty then none else some { s with trialFile := some v } },
  { name := "name", value := some "NAME"
    purpose := "Name to greet"
    assign := fun v s => some { s with name := v } },
  { name := "calls", value := some "CALLS"
    purpose := "Number of calls to make"
    assign := fun v s =>
      (CommandLine.integer? UInt32.size v).map fun n => { s with calls := n } },
  { name := "json", setBy := some "SWITCHYARD_LOG_JSON"
    purpose := "Emit logs as JSON"
    assign := fun v s => (CommandLine.switch? v).map fun b => { s with json := b } },
  { name := "log-level", value := some "LOG_LEVEL"
    purpose := "Log filter"
    assign := fun v s => some { s with logLevel := v } }]

/-- The settings of a command line in an environment. -/
def Settings.read (args : List String) (environment : String → Option String) :
    Except Parting Settings :=
  CommandLine.read options {} args environment

/-! ### The trial -/

/-- Why there is no trial to route by. -/
inductive Refusal where
  | builtIn (error : RegistrationError)
  | unreadable (file : String)
  | malformed (file : String)
  | invalid (error : RegistrationError)
  deriving DecidableEq, Repr

/-- The refusal in words. -/
def Refusal.message : Refusal → String
  | builtIn _ => "invalid built-in trial"
  | unreadable file => "reading trial definition " ++ file
  | malformed file => "parsing trial definition " ++ file
  | invalid _ => "invalid trial definition"

/-- The rule of trials that has been violated, in words. -/
def Refusal.cause? : Refusal → Option String
  | builtIn error => some error.message
  | invalid error => some error.message
  | _ => none

/-- The built-in trial: the flag chooses the friendly greeter, and whatever goes wrong
    leads back to the classic one. -/
def builtIn (deadline : Nat) : Draft :=
  ({ service := "greeter" } : Draft).applyAll [
    .mode booleanFlagMode flagName,
    .defaultTrial ⟨"false", "classic"⟩,
    .trial ⟨"true", "friendly"⟩,
    .onError .redirectToDefault,
    .timeout ⟨.ofMillis deadline, .fallbackToDefault, .wholeSequence⟩]

/-- The trial to route by, given what the trial file holds, if it can be read. -/
def Settings.registration (settings : Settings) (content : String → Option String) :
    Except Refusal Registration :=
  match settings.trialFile with
  | none => (builtIn settings.deadline).build.mapError .builtIn
  | some file =>
      match content file with
      | none => .error (.unreadable file)
      | some text =>
          match Definition.parse? text with
          | none => .error (.malformed file)
          | some definition => (Registration.ofDefinition definition).mapError .invalid

/-! ### The greetings -/

/-- The classic greeter. -/
def classic : Recipe where
  name := "classic"
  construction _ := none
  behavior _ request := { outcome := .ok (.text ("Hello, " ++ request.argument ++ ".")) }

/-- The friendly greeter. -/
def friendly (settings : Settings) : Recipe where
  name := "friendly"
  construction _ := none
  behavior _ request := {
    pause := settings.friendlyDelay
    outcome :=
      if settings.friendlyFails then
        .error (.implementation (.own "greeter unavailable: friendly greeter is switched off"))
      else .ok (.text ("Hey " ++ request.argument ++ ", great to see you!")) }

/-- The router's configuration. -/
def config : RouterConfig := { name := commandName }

/-- The router over both greeters, and the state it starts in. -/
def opening (settings : Settings) (r : Registration) (wallClock : UInt64) : State × Router :=
  let s := ({ wallClock } : State).registerBuiltIns
  let s := { s with selector.flags := s.selector.flags.set flagName settings.newGreeting }
  let s := (s.implement classic).implementInstance (friendly settings)
  Router.build r [.logging, .concurrencyLimit none, .circuitBreaker none, .timeout none] config
    .tracing s

/-- How long a greeting is waited for. Each attempt is bounded by a decorator and each
    key is tried once at most, so no greeting takes longer. -/
def patience (r : Registration) : Supervision where
  abandonAfter := (r.keys.length + 1) * config.attemptMillis

/-- One greeting asked for. -/
def call (name : String) (token : Token) : Call where
  method := "greet"
  request := ⟨.call, name⟩
  caller := token
  token := token
  handsOut := false

/-- What a caller is told. -/
def told (call : Call) : Option Outcome → String
  | none => ""
  | some outcome =>
      match call.result outcome with
      | .ok (.text greeting) => greeting
      | .ok _ => ""
      | .error (.fault text) => "error: " ++ text
      | .error (.routing e) => "error: " ++ e.message

/-- One greeting: the state afterwards and what the caller is told. What earlier
    greetings have written is not kept. -/
def greet (router : Router) (name : String) (s : State) : State × String :=
  let watch := patience router.registration
  let issued := watch.issue s.newPage
  let activity := watch.activity (call name issued.2) issued.2 s.now
  let ran := Schedule.run router.conduct [activity] issued.1
  (ran.1, String.join (ran.2.map fun a => told a.request a.ending.1))

/-- A number of greetings, one after another: the state at the end and the lines,
    numbered from `first`. -/
def greetings (router : Router) (name : String) (first : Nat) :
    Nat → State → State × List String
  | 0, s => (s, [])
  | more + 1, s =>
      let greeted := greet router name s
      let others := greetings router name (first + 1) more greeted.1
      (others.1, (toString first ++ ": " ++ greeted.2) :: others.2)

/-! ### The command -/

/-- What the command leaves behind. -/
structure Report where
  code : UInt32 := 0
  output : String := ""
  complaint : String := ""
  deriving Repr, DecidableEq, Inhabited

/-- Lines of text, each ended. -/
def lines (ls : List String) : String :=
  String.join (ls.map (· ++ "\n"))

/-- How the command is called. -/
def usage : String := "Usage: " ++ commandName ++ " [OPTIONS]"

/-- What is left when the command line leads to no settings. -/
def Report.ofParting : Parting → Report
  | .misuse => { code := 2, complaint := lines ["error: unusable arguments", "", usage] }
  | .version => { output := lines [commandName ++ " 0.1.0"] }
  | .help =>
      { output := lines (["Route greeter calls between implementations", "", usage, "", "Options:"]
          ++ options.map CommandLine.helpLine) }

/-- What is left when there is no trial. -/
def Report.ofRefusal (refusal : Refusal) : Report where
  code := 1
  complaint := lines (["Error: " ++ refusal.message]
    ++ refusal.cause?.elim [] fun cause => ["", "Caused by:", "    " ++ cause])

/-- The command run with its settings. -/
def Settings.run (settings : Settings) (content : String → Option String) (wallClock : UInt64) :
    Report :=
  match settings.registration content with
  | .error refusal => .ofRefusal refusal
  | .ok r =>
      let opened := opening settings r wallClock
      { output := lines (greetings opened.2 settings.name 1 settings.calls opened.1).2 }

/-- The command run from its command line. -/
def run (args : List String) (environment content : String → Option String)
    (wallClock : UInt64) : Report :=
  match Settings.read args environment with
  | .error parting => .ofParting parting
  | .ok settings => settings.run content wallClock

end TrialRouting.Greeter
