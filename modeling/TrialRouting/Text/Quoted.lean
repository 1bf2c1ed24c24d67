import TrialRouting.Text.Invisible
import TrialRouting.Json.Printer

/-!
# Quoted text

Text between quotes for descriptions. Quotes and backslashes are escaped, the usual
control characters have short names, and every other character without a visible form
is written as its code point in braces.
-/

namespace TrialRouting.Text

/-- Lower-case hexadecimal digits without leading zeros. -/
def hexDigits (n : Nat) : List Char :=
  if n < 16 then [Json.hexChar n] else hexDigits (n / 16) ++ [Json.hexChar (n % 16)]

/-- One character inside quotes. -/
def quoteChar (c : Char) : List Char :=
  if c = '"' then ['\\', '"']
  else if c = '\\' then ['\\', '\\']
  else if c = '\n' then ['\\', 'n']
  else if c = '\r' then ['\\', 'r']
  else if c = '\t' then ['\\', 't']
  else if c.toNat = 0 then ['\\', '0']
  else if c.toNat < 32 || c.toNat = 127 || (127 < c.toNat && isInvisible c) then
    ['\\', 'u', '\x7b'] ++ hexDigits c.toNat ++ ['\x7d']
  else [c]

/-- A text between quotes. -/
def quoted (s : String) : String :=
  String.ofList ('"' :: (s.toList.flatMap quoteChar ++ ['"']))

/-- A list of texts between brackets. -/
def quotedList (items : List String) : String :=
  "[" ++ String.intercalate ", " (items.map quoted) ++ "]"

/-- A named description with its fields in braces. -/
def describe (name : String) (fields : List (String × String)) (complete : Bool) : String :=
  let shown := fields.map fun (field, value) => field ++ ": " ++ value
  let shown := if complete then shown else shown ++ [".."]
  name ++ " \x7b " ++ String.intercalate ", " shown ++ " \x7d"

end TrialRouting.Text
