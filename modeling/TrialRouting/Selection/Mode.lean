import TrialRouting.Directory
import TrialRouting.Selection.Basic
import TrialRouting.Selection.Setting

/-!
# Selection modes

The built-in modes look up a flag, look up a configuration setting, or draw one of
the candidates. Further modes can be added under any name, and a name used again
replaces what it named before. The sources behind flags and settings may be down,
in which case every look-up fails.
-/

namespace TrialRouting

/-- A mode added to the built-in ones. -/
structure CustomMode where
  /-- The name it writes into the journal. -/
  name : String
  /-- How many milliseconds it takes to answer. -/
  delay : Nat := 0
  /-- Its answer for a method of a trial. -/
  answer : Registration → String → Opinion

/-- How a key is picked. -/
inductive Mode where
  /-- The key `true` or `false` after the flag's state. -/
  | booleanFlag
  /-- The setting at the selector, as text. -/
  | configurationValue
  /-- Any candidate. -/
  | random
  | custom (mode : CustomMode)

namespace Mode

/-- Identifier of the mode that looks up a setting. -/
def configurationValueName : String := "configuration-value"

/-- Identifier of the mode that draws a candidate. -/
def randomName : String := "random"

/-- The key that a flag's state stands for, if it is a trial key. -/
def flagKey? (r : Registration) (enabled : Bool) : Option String :=
  let key := if enabled then "true" else "false"
  if r.contains key then some key else none

/-- The key that a setting stands for: a text as it is and numbers and booleans by
    their text. A null or an empty text is no opinion. -/
def settingKey (path : String) : Setting → Opinion
  | .null => .ok none
  | .text s => .ok (if s.isEmpty then none else some s)
  | .list _ => .error (.unsupportedValue path)
  | .table _ => .error (.unsupportedValue path)
  | v => .ok (some v.render)

end Mode

/-- The modes a router can ask, with the sources they look things up in. -/
structure Selector where
  modes : Directory Mode := []
  flags : Directory Bool := []
  settings : Directory Setting := []
  /-- Why the flags are down, if they are. -/
  flagOutage : Option Causes := none
  /-- Why the configuration is down, if it is. -/
  settingOutage : Option Causes := none
  /-- The state of the generator that random selection draws from. -/
  seed : UInt64 := 0

namespace Selector

/-- What a trace says when a mode is registered. -/
def registeredEvent (name : String) : Trace.Event :=
  ⟨.debug, "selection mode registered", [Trace.text "mode" name]⟩

/-- The mode registered under a name. -/
def mode? (s : Selector) (name : String) : Option Mode :=
  s.modes.lookup? name

/-- A mode put under a name, in place of what the name meant before. -/
def register (s : Selector) (name : String) (mode : Mode) : Selector :=
  { s with modes := s.modes.set name mode }

/-- The built-in modes with their names, in the order they are registered. -/
def builtIns : List (String × Mode) :=
  [(booleanFlagMode, .booleanFlag), (Mode.configurationValueName, .configurationValue),
    (Mode.randomName, .random)]

/-- The selector with the built-in modes registered. -/
def withBuiltIns (s : Selector) : Selector :=
  builtIns.foldl (fun s (name, mode) => s.register name mode) s

/-- Names of the registered modes, sorted. -/
def names (s : Selector) : List String :=
  s.modes.names

/-- The next state of the generator. -/
def nextSeed (seed : UInt64) : UInt64 :=
  seed * 6364136223846793005 + 1442695040888963407

/-- The candidate that a state of the generator picks. -/
def draw? (seed : UInt64) (candidates : List String) : Option String :=
  candidates[(seed >>> 33).toNat % candidates.length]?

/-- What the flag at a name says. -/
def flag? (s : Selector) (name : String) : Except SelectionError (Option Bool) :=
  match s.flagOutage with
  | some causes => .error (.source causes)
  | none => .ok (s.flags.lookup? name)

/-- What the configuration holds at a path. -/
def setting? (s : Selector) (path : String) : Except SelectionError (Option Setting) :=
  match s.settingOutage with
  | some causes => .error (.source causes)
  | none => .ok (s.settings.lookup? path)

/-- A mode's opinion about a call of a method of a trial. -/
def opinion (s : Selector) (r : Registration) (method : String) : Mode → Opinion
  | .booleanFlag => do
      match ← s.flag? r.selector with
      | none => .error (.flagUndefined r.selector)
      | some enabled => .ok (Mode.flagKey? r enabled)
  | .configurationValue => do
      match ← s.setting? r.selector with
      | none => .error (.valueMissing r.selector)
      | some v => Mode.settingKey r.selector v
  | .random => .ok (draw? s.seed r.keys)
  | .custom mode => mode.answer r method

/-- The selector after a mode has been asked: a draw moves the generator on. -/
def afterAsking (s : Selector) : Mode → Selector
  | .random => { s with seed := nextSeed s.seed }
  | _ => s

/-- How many milliseconds a mode takes to answer. -/
def delay : Mode → Nat
  | .custom mode => mode.delay
  | _ => 0

end Selector

end TrialRouting
