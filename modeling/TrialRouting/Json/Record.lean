import TrialRouting.Json.Basic

/-!
# Records and variants in JSON

A record is an object with its members in any order, unknown members ignored and
known ones not repeated, or an array of its fields in their order. A field is
required, or it may be `null` or left out of an object, or it has a default that
also stands for a field left out at the end of an array. A variant is its name
alone, or an object whose only member is its name with its content.
-/

namespace TrialRouting

namespace Json

/-- The content of a text that a string can hold. -/
def string? : Json → Option String
  | .text t => t
  | _ => none

/-- A plain whole number of at most 64 bits. -/
def word? : Json → Option UInt64
  | .number n => n.word64?
  | _ => none

/-- The items of an array, each read by `read`. -/
def list? {α : Type} (read : Json → Option α) : Json → Option (List α)
  | .array items => items.mapM read
  | _ => none

/-- `null`, or a value read by `read`. -/
def nullable? {α : Type} (read : Json → Option α) : Json → Option (Option α)
  | .null => some none
  | v => (read v).map some

/-- What a record holds for its fields, in their order. -/
inductive Fields where
  /-- From an object: a field may be missing anywhere. -/
  | named (values : List (Option Json))
  /-- From an array: fields may be missing at the end only. -/
  | positional (values : List (Option Json))
  deriving Repr

/-- Members whose names can all be read. -/
def namedMembers? (members : List (JsonText × Json)) : Option (List (String × Json)) :=
  members.mapM fun (name, v) => name.map (·, v)

/-- The value of one field among the members; a field given twice is refused. -/
def single? (members : List (String × Json)) (field : String) : Option (Option Json) :=
  match members.filter (·.1 == field) with
  | [] => some none
  | [(_, v)] => some (some v)
  | _ => none

/-- What a value holds for the fields of a record. -/
def fields? (names : List String) : Json → Option Fields
  | .object members => do
      let members ← namedMembers? members
      let values ← names.mapM (single? members)
      return .named values
  | .array items =>
      if items.length ≤ names.length then
        some (.positional (items.map some ++ List.replicate (names.length - items.length) none))
      else none
  | _ => none

namespace Fields

/-- The value of the field at a position. -/
def value? : Fields → Nat → Option Json
  | named values, i => (values[i]?).join
  | positional values, i => (values[i]?).join

/-- A field that has to be there. -/
def required? {α : Type} (f : Fields) (i : Nat) (read : Json → Option α) : Option α :=
  (f.value? i).bind read

/-- A field that may be `null`, and may be left out of an object. -/
def nullable? {α : Type} (f : Fields) (i : Nat) (read : Json → Option α) :
    Option (Option α) :=
  match f, f.value? i with
  | _, some v => Json.nullable? read v
  | named _, none => some none
  | positional _, none => none

/-- A field that has a default. -/
def withDefault? {α : Type} (f : Fields) (i : Nat) (default : α) (read : Json → Option α) :
    Option α :=
  match f.value? i with
  | some v => read v
  | none => some default

end Fields

/-- The name of a variant and its content, if it has any. -/
def variant? : Json → Option (String × Option Json)
  | .text (some name) => some (name, none)
  | .object [(some name, content)] => some (name, some content)
  | _ => none

/-- Whether the content of a variant without data is acceptable. -/
def isVoid : Option Json → Bool
  | none => true
  | some .null => true
  | some _ => false

end Json

end TrialRouting
