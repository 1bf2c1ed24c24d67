import TrialRouting.Definition
import TrialRouting.Json.Printer
import TrialRouting.Json.Reader
import TrialRouting.Json.Record

/-!
# Definitions as JSON

How each part of a definition is written and read. Writing gives one text per
definition: members in a fixed order, unset mode, selector and timeout left out,
window ends always present. Reading accepts every spelling of the same value.
-/

namespace TrialRouting

/-- A value written as compact JSON text. -/
def Json.textOf {α : Type} (write : α → Json) (a : α) : String :=
  (write a).render

/-- The value that a JSON text spells. -/
def Json.ofText? {α : Type} (read : Json → Option α) (text : String) : Option α :=
  (Json.parse? text).bind read

namespace OnError

/-- A policy without a key is its name; one with keys is an object of one member. -/
def toJson : OnError → Json
  | throw => .ofString "throw"
  | redirectToDefault => .ofString "redirect_to_default"
  | redirectToAny => .ofString "redirect_to_any"
  | redirectToSpecific key => .record [("redirect_to_specific", .ofString key)]
  | redirectOrdered keys => .record [("redirect_ordered", .array (keys.map .ofString))]

/-- The policy that a variant spells. -/
def ofJson? (v : Json) : Option OnError := do
  match ← v.variant? with
  | ("throw", content) => if Json.isVoid content then some throw else none
  | ("redirect_to_default", content) =>
      if Json.isVoid content then some redirectToDefault else none
  | ("redirect_to_any", content) => if Json.isVoid content then some redirectToAny else none
  | ("redirect_to_specific", some key) => key.string?.map redirectToSpecific
  | ("redirect_ordered", some keys) => (keys.list? Json.string?).map redirectOrdered
  | _ => none

end OnError

namespace TimeoutAction

/-- An action without a key is its name; one with a key is an object of one member. -/
def toJson : TimeoutAction → Json
  | throw => .ofString "throw"
  | fallbackToDefault => .ofString "fallback_to_default"
  | fallbackToSpecific key => .record [("fallback_to_specific", .ofString key)]

/-- The action that a variant spells. -/
def ofJson? (v : Json) : Option TimeoutAction := do
  match ← v.variant? with
  | ("throw", content) => if Json.isVoid content then some throw else none
  | ("fallback_to_default", content) =>
      if Json.isVoid content then some fallbackToDefault else none
  | ("fallback_to_specific", some key) => key.string?.map fallbackToSpecific
  | _ => none

end TimeoutAction

namespace TimeoutScope

/-- A scope is its name. -/
def toJson : TimeoutScope → Json
  | wholeSequence => .ofString "whole_sequence"
  | firstAttempt => .ofString "first_attempt"

/-- The scope that a variant spells. -/
def ofJson? (v : Json) : Option TimeoutScope := do
  match ← v.variant? with
  | ("whole_sequence", content) => if Json.isVoid content then some wholeSequence else none
  | ("first_attempt", content) => if Json.isVoid content then some firstAttempt else none
  | _ => none

end TimeoutScope

namespace TimeoutDefinition

/-- A timeout is written with all its fields. -/
def toJson (t : TimeoutDefinition) : Json :=
  .record [("timeout_ms", .ofWord t.millis), ("action", t.action.toJson),
    ("scope", t.scope.toJson)]

/-- The timeout of a record; its action and its scope have defaults. -/
def ofJson? (v : Json) : Option TimeoutDefinition := do
  let f ← v.fields? ["timeout_ms", "action", "scope"]
  return {
    millis := ← f.required? 0 Json.word?
    action := ← f.withDefault? 1 .throw TimeoutAction.ofJson?
    scope := ← f.withDefault? 2 .wholeSequence TimeoutScope.ofJson? }

end TimeoutDefinition

namespace Window

/-- A window is written with both ends. -/
def toJson (w : Window) : Json :=
  .record [("start_ms", Json.ofOption .ofWord w.start), ("end_ms", Json.ofOption .ofWord w.finish)]

/-- The window of a record; an object may leave out either end. -/
def ofJson? (v : Json) : Option Window := do
  let f ← v.fields? ["start_ms", "end_ms"]
  return { start := ← f.nullable? 0 Json.word?, finish := ← f.nullable? 1 Json.word? }

end Window

namespace Trial

/-- A trial is written with both its names. -/
def toJson (t : Trial) : Json :=
  .record [("key", .ofString t.key), ("implementation", .ofString t.implementation)]

/-- The trial of a record, which has both names. -/
def ofJson? (v : Json) : Option Trial := do
  let f ← v.fields? ["key", "implementation"]
  return {
    key := ← f.required? 0 Json.string?
    implementation := ← f.required? 1 Json.string? }

end Trial

namespace Definition

/-- Fields of a definition, in the order of its array form. -/
def fieldNames : List String :=
  ["service_type", "mode", "selector", "default_key", "trials", "on_error", "timeout",
    "activation"]

/-- A member that is written only when it is set. -/
def optionalMember {α : Type} (name : String) (write : α → Json) :
    Option α → List (String × Json)
  | none => []
  | some a => [(name, write a)]

/-- A definition is written in the order of its fields; mode, selector and timeout
    only when they are set. -/
def toJson (d : Definition) : Json :=
  .record (
    [("service_type", .ofString d.service)]
    ++ optionalMember "mode" .ofString d.mode
    ++ optionalMember "selector" .ofString d.selector
    ++ [("default_key", .ofString d.defaultKey),
        ("trials", .array (d.trials.map Trial.toJson)),
        ("on_error", d.onError.toJson)]
    ++ optionalMember "timeout" TimeoutDefinition.toJson d.timeout
    ++ [("activation", d.activation.toJson)])

/-- The definition of a record. Service, default key and trials are required. -/
def ofJson? (v : Json) : Option Definition := do
  let f ← v.fields? fieldNames
  return {
    service := ← f.required? 0 Json.string?
    mode := ← f.nullable? 1 Json.string?
    selector := ← f.nullable? 2 Json.string?
    defaultKey := ← f.required? 3 Json.string?
    trials := ← f.required? 4 (Json.list? Trial.ofJson?)
    onError := ← f.withDefault? 5 .throw OnError.ofJson?
    timeout := ← f.withDefault? 6 none (Json.nullable? TimeoutDefinition.ofJson?)
    activation := ← f.withDefault? 7 .unbounded Window.ofJson? }

/-- The text of a definition. -/
def text (d : Definition) : String :=
  Json.textOf toJson d

/-- The definition that a text spells. -/
def parse? (text : String) : Option Definition :=
  Json.ofText? ofJson? text

end Definition

end TrialRouting
