import TrialRouting.Json.Basic

/-!
# JSON tokens

The tokens of a text are found by a machine that takes one character at a time.
Blanks are the space, the tab, the line feed and the carriage return. Numbers and
words are taken as far as they reach and checked as a whole, since two of them
never stand side by side in a value. A text must not hold a raw character below
U+0020, and its escapes are checked even when nobody reads it.
-/

namespace TrialRouting

/-- A JSON token. -/
inductive JsonToken where
  | openArray
  | closeArray
  | openObject
  | closeObject
  | comma
  | colon
  | null
  | bool (value : Bool)
  | number (value : Numeral)
  | text (value : JsonText)
  deriving DecidableEq, Repr

/-- The part of a text that has been read. -/
structure PartialText where
  /-- Characters so far, the latest first. -/
  seen : List Char := []
  /-- First half of a surrogate pair that waits for the second. -/
  half : Option Nat := none
  /-- Whether a half stood alone. -/
  broken : Bool := false
  deriving DecidableEq, Repr

namespace PartialText

/-- One more character; a half in front of it stands alone. -/
def push (t : PartialText) (c : Char) : PartialText :=
  { seen := c :: t.seen, half := none, broken := t.broken || t.half.isSome }

/-- One more escaped 16-bit unit. -/
def pushUnit (t : PartialText) (u : Nat) : PartialText :=
  if 0xD800 ≤ u ∧ u < 0xDC00 then
    { t with half := some u, broken := t.broken || t.half.isSome }
  else if 0xDC00 ≤ u ∧ u < 0xE000 then
    match t.half with
    | some h =>
        { seen := Char.ofNat (0x10000 + (h - 0xD800) * 0x400 + (u - 0xDC00)) :: t.seen
          half := none
          broken := t.broken }
    | none => { t with broken := true }
  else t.push (Char.ofNat u)

/-- The whole text, once its closing quote has come. -/
def finish (t : PartialText) : JsonText :=
  if t.broken || t.half.isSome then none else some (String.ofList t.seen.reverse)

end PartialText

/-- The value of a hexadecimal digit of either case. -/
def hexValue? (c : Char) : Option Nat :=
  if '0' ≤ c ∧ c ≤ '9' then some (c.toNat - 48)
  else if 'a' ≤ c ∧ c ≤ 'f' then some (c.toNat - 87)
  else if 'A' ≤ c ∧ c ≤ 'F' then some (c.toNat - 55)
  else none

/-- The character that a one-letter escape stands for. -/
def escapedChar? (c : Char) : Option Char :=
  match c with
  | '"' => some '"'
  | '\\' => some '\\'
  | '/' => some '/'
  | 'b' => some (Char.ofNat 8)
  | 'f' => some (Char.ofNat 12)
  | 'n' => some '\n'
  | 'r' => some '\r'
  | 't' => some '\t'
  | _ => none

namespace Numeral

/-- The digits at the front and what follows them. -/
def takeDigits (cs : List Char) : List Char × List Char :=
  (cs.takeWhile (·.isDigit), cs.dropWhile (·.isDigit))

/-- The exponent that ends a literal: nothing, or `e`, an optional sign and digits. -/
def exponent? : List Char → Option (Option Int)
  | [] => some none
  | e :: rest =>
      if e = 'e' ∨ e = 'E' then
        let (negative, digits) := match rest with
          | '-' :: ds => (true, ds)
          | '+' :: ds => (false, ds)
          | ds => (false, ds)
        if !digits.isEmpty && digits.all (·.isDigit) then
          some (some (if negative then -(digitsValue digits : Int) else digitsValue digits))
        else none
      else none

/-- The literal that all of `cs` spells. The part before the point has no leading
    zero unless it is zero, and a point is followed by digits. -/
def ofChars? (cs : List Char) : Option Numeral := do
  let (negative, cs) := match cs with
    | '-' :: rest => (true, rest)
    | rest => (false, rest)
  let (whole, rest) := takeDigits cs
  guard (!whole.isEmpty && (whole.length == 1 || whole.head? != some '0'))
  let (fraction, rest) ← match rest with
    | '.' :: more =>
        let (fraction, rest) := takeDigits more
        if fraction.isEmpty then none else some (fraction, rest)
    | rest => some ([], rest)
  let exponent ← exponent? rest
  return { negative, whole, fraction, exponent }

end Numeral

namespace JsonToken

/-- The token of a word. -/
def ofWord? (word : String) : Option JsonToken :=
  match word with
  | "null" => some .null
  | "true" => some (.bool true)
  | "false" => some (.bool false)
  | _ => none

/-- The token of a punctuation mark. -/
def ofMark? (c : Char) : Option JsonToken :=
  match c with
  | '[' => some .openArray
  | ']' => some .closeArray
  | '\x7b' => some .openObject
  | '\x7d' => some .closeObject
  | ',' => some .comma
  | ':' => some .colon
  | _ => none

/-- Where the machine stands between characters. -/
inductive Mode where
  /-- Between tokens. -/
  | between
  /-- In a word; its characters, the latest first. -/
  | word (seen : List Char)
  /-- In a number; its characters, the latest first. -/
  | number (seen : List Char)
  /-- Inside the quotes. -/
  | text (t : PartialText)
  /-- After a backslash. -/
  | escape (t : PartialText)
  /-- In an escaped unit that still lacks `missing + 1` digits. -/
  | unit (t : PartialText) (missing : Nat) (value : Nat)
  deriving DecidableEq, Repr

/-- Whether a blank may stand here. -/
def isBlank (c : Char) : Bool :=
  c = ' ' || c = '\t' || c = '\n' || c = '\r'

/-- Whether the character can belong to a number. -/
def isNumeric (c : Char) : Bool :=
  c.isDigit || c = '-' || c = '+' || c = '.' || c = 'e' || c = 'E'

/-- One character between tokens: a blank, a mark, or the start of a longer token. -/
def start (c : Char) : Option (List JsonToken × Mode) :=
  if isBlank c then some ([], .between)
  else if c = '"' then some ([], .text {})
  else if c.isDigit || c = '-' then some ([], .number [c])
  else if c.isAlpha then some ([], .word [c])
  else (ofMark? c).map fun t => ([t], .between)

/-- One more character: the tokens it completes, and where the machine stands then. -/
def step (mode : Mode) (c : Char) : Option (List JsonToken × Mode) :=
  match mode with
  | .between => start c
  | .word seen =>
      if c.isAlpha then some ([], .word (c :: seen))
      else do
        let token ← ofWord? (String.ofList seen.reverse)
        let (tokens, next) ← start c
        return (token :: tokens, next)
  | .number seen =>
      if isNumeric c then some ([], .number (c :: seen))
      else do
        let value ← Numeral.ofChars? seen.reverse
        let (tokens, next) ← start c
        return (.number value :: tokens, next)
  | .text t =>
      if c = '"' then some ([.text t.finish], .between)
      else if c = '\\' then some ([], .escape t)
      else if c.toNat < 32 then none
      else some ([], .text (t.push c))
  | .escape t =>
      if c = 'u' then some ([], .unit t 3 0)
      else (escapedChar? c).map fun e => ([], .text (t.push e))
  | .unit t missing value => do
      let digit ← hexValue? c
      let value := 16 * value + digit
      match missing with
      | 0 => return ([], .text (t.pushUnit value))
      | missing + 1 => return ([], .unit t missing value)

/-- The token that the end of the input completes. -/
def finish : Mode → Option (List JsonToken)
  | .between => some []
  | .word seen => (ofWord? (String.ofList seen.reverse)).map ([·])
  | .number seen => (Numeral.ofChars? seen.reverse).map ([.number ·])
  | _ => none

/-- The tokens of the remaining characters. -/
def run : Mode → List Char → Option (List JsonToken)
  | mode, [] => finish mode
  | mode, c :: rest => do
      let (tokens, next) ← step mode c
      let more ← run next rest
      return tokens ++ more

/-- The tokens of a text, if all of it can be read. -/
def ofChars? (cs : List Char) : Option (List JsonToken) :=
  run .between cs

end JsonToken

end TrialRouting
