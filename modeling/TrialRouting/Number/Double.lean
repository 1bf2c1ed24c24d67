import TrialRouting.Json.Basic

/-!
# Doubles

A finite double is a sign, a whole number of at most 53 bits and a power of two.
Arithmetic is exact on fractions of whole numbers and rounded once, to the nearest
double, a tie going to the even one. A magnitude past the largest double is none.
-/

namespace TrialRouting

/-- A finite double without its sign: `significand * 2 ^ exponent`. -/
structure Magnitude where
  significand : Nat
  exponent : Int
  deriving DecidableEq, Repr, Inhabited

/-- A finite double. -/
structure Double where
  negative : Bool
  magnitude : Magnitude
  deriving DecidableEq, Repr, Inhabited

/-- The quotient rounded to the nearest whole number, a tie to the even one. -/
def roundQuotient (numerator denominator : Nat) : Nat :=
  let floor := numerator / denominator
  let twice := 2 * (numerator % denominator)
  if twice < denominator then floor
  else if denominator < twice then floor + 1
  else floor + floor % 2

/-- A fraction of whole numbers multiplied by a power of two. -/
def scaleFraction (numerator denominator : Nat) (power : Int) : Nat × Nat :=
  if 0 ≤ power then (numerator * Nat.pow 2 power.toNat, denominator)
  else (numerator, denominator * Nat.pow 2 (-power).toNat)

namespace Magnitude

/-- No magnitude. -/
def zero : Magnitude := ⟨0, -1074⟩

/-- The value as a fraction of whole numbers. -/
def fraction (m : Magnitude) : Nat × Nat :=
  scaleFraction m.significand 1 m.exponent

/-- The nearest magnitude to a fraction, unless it is past the largest one. A
    significand has 53 bits unless the exponent is the least one. -/
def ofFraction? (numerator denominator : Nat) : Option Magnitude :=
  if numerator = 0 then some zero
  else
    let guess : Int := (numerator.log2 : Int) - denominator.log2
    let (n, d) := scaleFraction numerator denominator (-guess)
    let top := if n < d then guess - 1 else guess
    let exponent := max (top - 52) (-1074)
    let (n, d) := scaleFraction numerator denominator (-exponent)
    let rounded := roundQuotient n d
    let m : Magnitude := 
      if rounded = Nat.pow 2 53 then ⟨Nat.pow 2 52, exponent + 1⟩ else ⟨rounded, exponent⟩
    if 971 < m.exponent then none else some m

/-- The nearest magnitude to a whole number. -/
def ofNat (n : Nat) : Magnitude :=
  (ofFraction? n 1).getD zero

/-- The product, rounded. -/
def mul? (a b : Magnitude) : Option Magnitude :=
  ofFraction? (a.fraction.1 * b.fraction.1) (a.fraction.2 * b.fraction.2)

/-- The quotient, rounded. -/
def div? (a b : Magnitude) : Option Magnitude :=
  ofFraction? (a.fraction.1 * b.fraction.2) (a.fraction.2 * b.fraction.1)

/-- The nearest magnitude to a power of ten up to the 308th. -/
def powerOfTen (n : Nat) : Magnitude :=
  ofNat (Nat.pow 10 n)

/-- A magnitude multiplied by a power of ten, in one rounded operation where the
    power is in range. Below the range it is divided by the largest power first;
    above it only zero has a product. -/
def scaleByTen? (m : Magnitude) (power : Int) : Option Magnitude :=
  if m.significand = 0 then some m
  else if 308 < power then none
  else if 0 ≤ power then m.mul? (powerOfTen power.toNat)
  else if -308 ≤ power then m.div? (powerOfTen (-power).toNat)
  else do
    let smaller ← m.div? (powerOfTen 308)
    scaleByTen? smaller (power + 308)
termination_by power.natAbs
decreasing_by omega

end Magnitude

namespace Numeral

/-- Digits taken one after another while the number they spell stays below
    `2 ^ 64`: that number, and how many digits were left. -/
def takeWord (start : Nat) : List Char → Nat × Nat
  | [] => (start, 0)
  | c :: rest =>
      if 10 * start + digitValue c < UInt64.size then takeWord (10 * start + digitValue c) rest
      else (start, rest.length + 1)

/-- The double that a literal stands for: its leading digits as a whole number of
    64 bits, scaled by one power of ten. Digits past 64 bits are dropped. -/
def double? (n : Numeral) : Option Double := do
  let (head, dropped) := takeWord 0 n.whole
  let (significand, ignored) := takeWord head n.fraction
  let taken : Int := n.fraction.length - ignored
  let power := dropped - taken + n.exponent.getD 0
  let magnitude ← (Magnitude.ofNat significand).scaleByTen? power
  return ⟨n.negative, magnitude⟩

end Numeral

end TrialRouting
