import TrialRouting.Json.Basic

/-!
# Writing JSON

Compact text: no spaces, members in order. In a text the quote, the backslash and
the characters below U+0020 are escaped and nothing else is. A text that holds
half of a surrogate pair is written with such a half, so it stays unreadable.
-/

namespace TrialRouting

namespace Json

/-- The lower-case hexadecimal digit of a number below sixteen. -/
def hexChar (n : Nat) : Char :=
  if n < 10 then digitChar n else Char.ofNat (87 + n % 16)

/-- One character inside a text. -/
def escapeChar (c : Char) : List Char :=
  if c = '"' then ['\\', '"']
  else if c = '\\' then ['\\', '\\']
  else if c.toNat = 8 then ['\\', 'b']
  else if c.toNat = 12 then ['\\', 'f']
  else if c = '\n' then ['\\', 'n']
  else if c = '\r' then ['\\', 'r']
  else if c = '\t' then ['\\', 't']
  else if c.toNat < 32 then ['\\', 'u', '0', '0', hexChar (c.toNat / 16), hexChar (c.toNat % 16)]
  else [c]

/-- A text with its quotes. -/
def printText : JsonText → List Char
  | some s => '"' :: (s.toList.flatMap escapeChar ++ ['"'])
  | none => ['"', '\\', 'u', 'd', '8', '0', '0', '"']

/-- A whole number with its sign. -/
def printInt (n : Int) : List Char :=
  if n < 0 then '-' :: decimalDigits n.natAbs else decimalDigits n.natAbs

/-- A number literal. -/
def printNumeral (n : Numeral) : List Char :=
  (if n.negative then ['-'] else []) ++ n.whole
    ++ (if n.fraction.isEmpty then [] else '.' :: n.fraction)
    ++ match n.exponent with
      | none => []
      | some e => 'e' :: printInt e

mutual

/-- A value as compact text. -/
def print : Json → List Char
  | .null => ['n', 'u', 'l', 'l']
  | .bool true => ['t', 'r', 'u', 'e']
  | .bool false => ['f', 'a', 'l', 's', 'e']
  | .number n => printNumeral n
  | .text t => printText t
  | .array items => '[' :: (printItems items ++ [']'])
  | .object members => '\x7b' :: (printMembers members ++ ['\x7d'])

/-- Array items, separated by commas. -/
def printItems : List Json → List Char
  | [] => []
  | [v] => print v
  | v :: rest => print v ++ ',' :: printItems rest

/-- Object members, separated by commas. -/
def printMembers : List (JsonText × Json) → List Char
  | [] => []
  | [(name, v)] => printText name ++ ':' :: print v
  | (name, v) :: rest => printText name ++ ':' :: (print v ++ ',' :: printMembers rest)

end

/-- A value as a string. -/
def render (v : Json) : String :=
  String.ofList v.print

end Json

end TrialRouting
