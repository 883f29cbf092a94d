import EntityForms.Binary64.Rounding

/-!
# The shortest decimal of a double

The decimal written for a double has the fewest digits that read back as the same double, and is
the nearest to it among those. The reals that round to a double form an interval around it, whose
ends belong to it exactly when the significand is even; below a power of two the lower half of the
interval is half as wide. For each number of digits in turn the value lies between two neighbours
of the decimal grid, and if any point of the grid is in the interval then so is one of these two.
Seventeen digits always suffice.
-/

namespace EntityForms

/-- The decimal `coefficient` · 10^`exponent`. -/
structure Decimal where
  coefficient : Nat
  exponent : Int
  deriving DecidableEq, Repr

namespace Decimal

/-- The digits of the coefficient. -/
def digits (d : Decimal) : List Char := Nat.toDigits 10 d.coefficient

/-- The number of digits before the point; zero or less for a value below one tenth. -/
def point (d : Decimal) : Int := d.exponent + d.digits.length

/-- Move up to `fuel` trailing zeros of the coefficient into the exponent. -/
def strip : Nat → Decimal → Decimal
  | 0, d => d
  | fuel + 1, d =>
    if d.coefficient % 10 = 0 then strip fuel ⟨d.coefficient / 10, d.exponent + 1⟩ else d

end Decimal

namespace Binary64

/--
The interval of reals that round to a positive double, over the denominator `whole`: it reaches
from `low` to `high` around `value`, and `closed` tells whether its ends belong to it.
-/
structure Interval where
  low : Nat
  value : Nat
  high : Nat
  whole : Nat
  closed : Bool

/-- The interval of the double with this significand and scale, in quarters of a unit. -/
def Interval.of (significand scale : Nat) : Interval where
  low := (4 * significand - if significand = 1 <<< 52 ∧ 0 < scale then 1 else 2) <<< scale
  value := (4 * significand) <<< scale
  high := (4 * significand + 2) <<< scale
  whole := 4 <<< unitExponent
  closed := significand % 2 = 0

/-- The same interval when it is measured in multiples of 10^`grid`. -/
def Interval.onGrid (i : Interval) (grid : Int) : Interval :=
  let up := Nat.pow 10 (-grid).toNat
  { i with low := i.low * up, value := i.value * up, high := i.high * up,
           whole := i.whole * Nat.pow 10 grid.toNat }

/-- Whether the point `k` of the grid lies in the interval. -/
def Interval.holds (i : Interval) (k : Nat) : Bool :=
  if i.closed then i.low ≤ k * i.whole && k * i.whole ≤ i.high
  else i.low < k * i.whole && k * i.whole < i.high

/-- The number of decimal digits before the point of the value. -/
def Interval.point (i : Interval) : Int :=
  if i.whole ≤ i.value then digitCount (i.value / i.whole)
  else 1 - digitCount ((i.whole + i.value - 1) / i.value - 1)

/-- The nearest point of the grid that lies in the interval. -/
def Interval.nearest? (tie : Tie) (i : Interval) : Option Nat :=
  let below := i.value / i.whole
  match i.holds below, i.holds (below + 1) with
  | true, true => some (roundDiv tie i.value i.whole)
  | true, false => some below
  | false, true => some (below + 1)
  | false, false => none

/-- Try one more digit until some decimal of that length lies in the interval. -/
def Interval.search (tie : Tie) (i : Interval) : (rounds digits : Nat) → Decimal
  | 0, digits =>
    let grid := i.point - digits
    ⟨(i.onGrid grid).value / (i.onGrid grid).whole, grid⟩
  | rounds + 1, digits =>
    let grid := i.point - digits
    match (i.onGrid grid).nearest? tie with
    | some k => ⟨k, grid⟩
    | none => i.search tie rounds (digits + 1)

/-- The shortest decimal that reads back as the double with this significand and scale. -/
def shortest (tie : Tie) (significand scale : Nat) : Decimal :=
  if significand = 0 then ⟨0, 0⟩
  else ((Interval.of significand scale).search tie 17 1).strip 17

end Binary64

end EntityForms
