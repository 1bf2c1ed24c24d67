/-!
# JSON values

A value keeps what its text said: members in order and with repeats, and numbers
as their literals, because it depends on the reader whether a repeat or a number
is acceptable. A text may escape half of a surrogate pair, which no string can
hold; such a text is `none` here, so that a value nobody looks at may hold one.
-/

namespace TrialRouting

/-- The content of a JSON text, or `none` if it escapes half of a surrogate pair. -/
abbrev JsonText := Option String

/-- A number literal. -/
structure Numeral where
  /-- Whether a minus sign stands in front. -/
  negative : Bool
  /-- Digits before the point. -/
  whole : List Char
  /-- Digits after the point; none without a point. -/
  fraction : List Char
  /-- The exponent, if written. -/
  exponent : Option Int
  deriving DecidableEq, Repr

/-- A JSON value as its text spells it. -/
inductive Json where
  | null
  | bool (value : Bool)
  | number (value : Numeral)
  | text (value : JsonText)
  | array (items : List Json)
  | object (members : List (JsonText × Json))
  deriving Repr, Inhabited

/-- The digit of a number below ten. -/
def digitChar (n : Nat) : Char :=
  Char.ofNat (48 + n % 10)

/-- The value of a decimal digit. -/
def digitValue (c : Char) : Nat :=
  c.toNat - 48

/-- The number that decimal digits spell. -/
def digitsValue (digits : List Char) : Nat :=
  digits.foldl (fun n c => 10 * n + digitValue c) 0

/-- The decimal digits of a number, without leading zeros. -/
def decimalDigits (n : Nat) : List Char :=
  if n < 10 then [digitChar n] else decimalDigits (n / 10) ++ [digitChar n]

namespace Numeral

/-- Whether the literal has neither point nor exponent. -/
def isPlain (n : Numeral) : Bool :=
  n.fraction.isEmpty && n.exponent.isNone

/-- The literal of a natural number. -/
def ofNat (n : Nat) : Numeral :=
  ⟨false, decimalDigits n, [], none⟩

/-- The number of a plain literal without sign, if it fits in 64 bits. -/
def word64? (n : Numeral) : Option UInt64 :=
  let value := digitsValue n.whole
  if !n.negative && n.isPlain && value < UInt64.size then some value.toUInt64 else none

end Numeral

namespace Json

/-- A text value. -/
def ofString (s : String) : Json := .text (some s)

/-- A number value. -/
def ofWord (n : UInt64) : Json := .number (.ofNat n.toNat)

/-- An object with the given members. -/
def record (members : List (String × Json)) : Json :=
  .object (members.map fun (name, value) => (some name, value))

/-- `null` for a missing value. -/
def ofOption {α : Type} (write : α → Json) : Option α → Json
  | none => .null
  | some a => write a

end Json

end TrialRouting
