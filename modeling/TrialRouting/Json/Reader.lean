import TrialRouting.Json.Token

/-!
# Reading JSON

Tokens are put together by a machine that remembers the containers around the
value it is reading, so nesting has no limit. What a container holds so far is kept
latest first and turned round when it closes, so each token costs the same. A document
is one value; nothing but blanks may follow it.
-/

namespace TrialRouting

namespace Json

/-- The containers around a value that is still to come, innermost first. -/
inductive Around where
  /-- The value is the document. -/
  | document
  /-- The value follows `before`, latest first, in an array. -/
  | item (before : List Json) (outer : Around)
  /-- The value belongs to `name`, which follows `before`, latest first, in an object. -/
  | member (before : List (JsonText × Json)) (name : JsonText) (outer : Around)
  deriving Repr

/-- Where the reader stands between tokens. -/
inductive Place where
  /-- A value must come. -/
  | value (around : Around)
  /-- An array has just been opened: a value or the end. -/
  | firstItem (outer : Around)
  /-- After an array item, the latest first: a comma or the end. -/
  | afterItem (items : List Json) (outer : Around)
  /-- An object has just been opened: a name or the end. -/
  | firstName (outer : Around)
  /-- After a comma in an object, its latest member first: a name. -/
  | nextName (members : List (JsonText × Json)) (outer : Around)
  /-- After a member's name. -/
  | colon (members : List (JsonText × Json)) (name : JsonText) (outer : Around)
  /-- After a member: a comma or the end. -/
  | afterMember (members : List (JsonText × Json)) (outer : Around)
  /-- After the document. -/
  | done (value : Json)
  deriving Repr

/-- The place after the awaited value has come. -/
def Around.fill (around : Around) (v : Json) : Place :=
  match around with
  | .document => .done v
  | .item before outer => .afterItem (v :: before) outer
  | .member before name outer => .afterMember ((name, v) :: before) outer

/-- The place after the first token of an awaited value. -/
def Around.accept (around : Around) : JsonToken → Option Place
  | .null => some (around.fill .null)
  | .bool b => some (around.fill (.bool b))
  | .number n => some (around.fill (.number n))
  | .text t => some (around.fill (.text t))
  | .openArray => some (.firstItem around)
  | .openObject => some (.firstName around)
  | _ => none

/-- One token further. -/
def Place.step : Place → JsonToken → Option Place
  | .value around, t => around.accept t
  | .firstItem outer, .closeArray => some (outer.fill (.array []))
  | .firstItem outer, t => (Around.item [] outer).accept t
  | .afterItem items outer, .comma => some (.value (.item items outer))
  | .afterItem items outer, .closeArray => some (outer.fill (.array items.reverse))
  | .firstName outer, .closeObject => some (outer.fill (.object []))
  | .firstName outer, .text name => some (.colon [] name outer)
  | .nextName members outer, .text name => some (.colon members name outer)
  | .colon members name outer, .colon => some (.value (.member members name outer))
  | .afterMember members outer, .comma => some (.nextName members outer)
  | .afterMember members outer, .closeObject => some (outer.fill (.object members.reverse))
  | _, _ => none

/-- The value that all of the tokens spell. -/
def ofTokens? (tokens : List JsonToken) : Option Json :=
  match tokens.foldlM Place.step (.value .document) with
  | some (.done v) => some v
  | _ => none

/-- The value that a text spells, with nothing but blanks around it. -/
def parse? (s : String) : Option Json := do
  ofTokens? (← JsonToken.ofChars? s.toList)

end Json

end TrialRouting
