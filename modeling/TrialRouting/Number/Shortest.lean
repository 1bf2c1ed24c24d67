import TrialRouting.Number.Double

/-!
# Shortest decimal digits

The digits of a double are the fewest that read back as it, and of those the
nearest. For each number of digits from one on, the two neighbours of the value on
that decimal grid are the only candidates: if any point of the grid lies in the
interval of numbers that round to the double, one of the two does.
-/

namespace TrialRouting

/-- A decimal number: `digits * 10 ^ power`. -/
structure DecimalDigits where
  digits : Nat
  power : Int
  deriving DecidableEq, Repr, Inhabited

namespace Magnitude

/-- The position of the leading decimal digit of a positive fraction: the `e` with
    `10 ^ e ≤ numerator / denominator < 10 ^ (e + 1)`. -/
def leadingPosition (numerator denominator : Nat) : Int :=
  if denominator ≤ numerator then
    ((decimalDigits (numerator / denominator)).length : Int) - 1
  else
    -((decimalDigits ((denominator - 1) / numerator)).length : Int)

/-- Whether a fraction rounds to the magnitude: it lies between the halfway points
    to the two neighbours, which belong to it when the significand is even. The
    lower neighbour of a power of two is only half as far away. -/
def covers (m : Magnitude) (numerator denominator : Nat) : Bool :=
  let (n, d) := scaleFraction numerator denominator (-m.exponent)
  let even := m.significand % 2 = 0
  let gap := if m.significand = Nat.pow 2 52 ∧ -1074 < m.exponent then 1 else 2
  let lower := 4 * m.significand - gap
  let upper := 4 * m.significand + 2
  if even then decide (lower * d ≤ 4 * n) && decide (4 * n ≤ upper * d)
  else decide (lower * d < 4 * n) && decide (4 * n < upper * d)

/-- A decimal number as a fraction. -/
def decimalFraction (digits : Nat) (power : Int) : Nat × Nat :=
  if 0 ≤ power then (digits * Nat.pow 10 power.toNat, 1)
  else (digits, Nat.pow 10 (-power).toNat)

/-- The neighbour of the magnitude on the grid of `10 ^ power` that reads back as
    it; of two the nearer, and of two equally near the even one. -/
def onGrid? (m : Magnitude) (power : Int) : Option DecimalDigits :=
  let (n, d) := m.fraction
  let (n, d) := if 0 ≤ power then (n, d * Nat.pow 10 power.toNat)
    else (n * Nat.pow 10 (-power).toNat, d)
  let below := n / d
  let reads (digits : Nat) : Bool :=
    let (a, b) := decimalFraction digits power
    m.covers a b
  match reads below, reads (below + 1) with
  | false, false => none
  | true, false => some ⟨below, power⟩
  | false, true => some ⟨below + 1, power⟩
  | true, true => some ⟨roundQuotient n d, power⟩

/-- The first of a list of powers on whose grid the magnitude has digits. -/
def firstGrid (m : Magnitude) : List Int → DecimalDigits
  | [] => ⟨0, 0⟩
  | power :: rest => (m.onGrid? power).getD (firstGrid m rest)

/-- The fewest digits that read back, nearest first; seventeen always do. -/
def shortest (m : Magnitude) : DecimalDigits :=
  if m.significand = 0 then ⟨0, 0⟩
  else
    let (n, d) := m.fraction
    let top := leadingPosition n d
    m.firstGrid ((List.range 17).map fun (k : Nat) => top - (k : Int))

end Magnitude

end TrialRouting
