import TrialRouting.Number.Shortest
import TrialRouting.Json.Printer
import TrialRouting.Json.Reader

/-!
# Configuration settings

A setting is read from JSON text. A whole number that fits in 64 bits stays one and
every other number becomes a double; an object keeps the last of repeated members
and lists its members by name. Settings are shown as compact JSON again, doubles by
their shortest digits.
-/

namespace TrialRouting

/-- How a double is laid out: positions of the leading digit that are written
    without an exponent. -/
structure DoubleLayout where
  lowestPlain : Int
  highestPlain : Int
  deriving DecidableEq, Repr

/-- Settings write doubles from `0.00001` up to sixteen digits before the point
    without an exponent. -/
def settingLayout : DoubleLayout := ⟨-5, 15⟩

/-- A value in the configuration. -/
inductive Setting where
  | null
  | bool (value : Bool)
  | whole (value : Int)
  | double (value : Double)
  | text (value : String)
  | list (items : List Setting)
  | table (members : List (String × Setting))
  deriving Repr, Inhabited

namespace DoubleLayout

/-- Digits without trailing zeros, and the position of the leading one. -/
def significantDigits (d : DecimalDigits) : List Char × Int :=
  let digits := decimalDigits d.digits
  let kept := (digits.reverse.dropWhile (· = '0')).reverse
  (kept, d.power + digits.length - 1)

/-- The digits of a positive double with a point and, out of range, an exponent.
    A number without an exponent has at least one digit after its point. -/
def printDigits (layout : DoubleLayout) (digits : List Char) (top : Int) : List Char :=
  if layout.lowestPlain ≤ top ∧ top ≤ layout.highestPlain then
    if top < 0 then
      ['0', '.'] ++ List.replicate (-top - 1).toNat '0' ++ digits
    else
      let before := top.toNat + 1
      let whole := digits.take before
      let fraction := digits.drop before
      whole ++ List.replicate (before - digits.length) '0'
        ++ '.' :: (if fraction.isEmpty then ['0'] else fraction)
  else
    digits.take 1
      ++ (if digits.length ≤ 1 then [] else '.' :: digits.drop 1)
      ++ 'e' :: (if top < 0 then '-' else '+') :: decimalDigits top.natAbs

/-- A double as text. -/
def print (layout : DoubleLayout) (x : Double) : List Char :=
  let sign := if x.negative then ['-'] else []
  if x.magnitude.significand = 0 then sign ++ ['0', '.', '0']
  else
    let (digits, top) := significantDigits x.magnitude.shortest
    sign ++ layout.printDigits digits top

end DoubleLayout

namespace Setting

/-- A number of a setting. Minus zero is a double, since no whole number has its sign. -/
def ofNumeral? (n : Numeral) : Option Setting :=
  let value := digitsValue n.whole
  if n.isPlain && !n.negative && value < UInt64.size then some (.whole value)
  else if n.isPlain && n.negative && value != 0 && value ≤ Nat.pow 2 63 then some (.whole (-value))
  else n.double?.map .double

/-- A member put among members listed by name, in place of one of the same name. -/
def insertMember (name : String) (v : Setting) :
    List (String × Setting) → List (String × Setting)
  | [] => [(name, v)]
  | (other, w) :: rest =>
      if name < other then (name, v) :: (other, w) :: rest
      else if name = other then (name, v) :: rest
      else (other, w) :: insertMember name v rest

mutual

/-- The setting that a JSON value stands for. -/
def ofJson? : Json → Option Setting
  | .null => some .null
  | .bool b => some (.bool b)
  | .number n => ofNumeral? n
  | .text t => t.map .text
  | .array items => (ofItems? items).map .list
  | .object members => (ofMembers? members).map fun ms =>
      .table (ms.foldl (fun table (name, v) => insertMember name v table) [])

/-- The settings of the items of an array. -/
def ofItems? : List Json → Option (List Setting)
  | [] => some []
  | v :: rest => do
      let first ← ofJson? v
      let others ← ofItems? rest
      return first :: others

/-- The settings of the members of an object, repeats included. -/
def ofMembers? : List (JsonText × Json) → Option (List (String × Setting))
  | [] => some []
  | (name, v) :: rest => do
      let name ← name
      let first ← ofJson? v
      let others ← ofMembers? rest
      return (name, first) :: others

end

/-- The setting that a text spells. -/
def parse? (text : String) : Option Setting :=
  (Json.parse? text).bind ofJson?

mutual

/-- A setting as compact JSON. -/
def print : Setting → List Char
  | .null => ['n', 'u', 'l', 'l']
  | .bool true => ['t', 'r', 'u', 'e']
  | .bool false => ['f', 'a', 'l', 's', 'e']
  | .whole n => Json.printInt n
  | .double x => settingLayout.print x
  | .text s => Json.printText (some s)
  | .list items => '[' :: (printItems items ++ [']'])
  | .table members => '\x7b' :: (printMembers members ++ ['\x7d'])

/-- List items, separated by commas. -/
def printItems : List Setting → List Char
  | [] => []
  | [v] => print v
  | v :: rest => print v ++ ',' :: printItems rest

/-- Table members, separated by commas. -/
def printMembers : List (String × Setting) → List Char
  | [] => []
  | [(name, v)] => Json.printText (some name) ++ ':' :: print v
  | (name, v) :: rest =>
      Json.printText (some name) ++ ':' :: (print v ++ ',' :: printMembers rest)

end

/-- A setting as a string. -/
def render (v : Setting) : String :=
  String.ofList v.print

end Setting

end TrialRouting
