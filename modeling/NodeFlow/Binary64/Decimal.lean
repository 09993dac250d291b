import NodeFlow.Binary64.Arithmetic
import NodeFlow.Decimal

/-!
# Decimals and binary64 numbers

The number nearest to a decimal, and the shortest decimal that reads back as a given number: the
coarsest power-of-ten grid with such a point is taken, and on it the point nearest to the number.
Every magnitude lies on the grid of `10 ^ (-scaleBits)`, so the search ends there at the latest.
-/

namespace NodeFlow.Binary64

/-- The number nearest to a decimal. Exponents far outside the format are decided without
computing the power: beyond `10 ^ 400` all is infinite, below `10 ^ (-400)` all is zero. -/
def ofDecimal (negative : Bool) (d : Decimal) : Binary64 :=
  if d.coefficient = 0 then zero negative
  else if 400 < d.exponent then .infinite negative
  else if d.exponent + d.coefficient.log2 + 1 < -400 then zero negative
  else if 0 ≤ d.exponent then
    ofRatio negative (d.coefficient * 10 ^ d.exponent.toNat * unitsPerOne) 1
  else ofRatio negative (d.coefficient * unitsPerOne) (10 ^ d.exponent.natAbs)

/-- A count of units as a count of steps of `10 ^ (-scaleBits)`. -/
def decimalSteps (units : Nat) : Nat := units * 5 ^ scaleBits

/-- Whether a point on the grid of `10 ^ (grid - scaleBits)` reads back as the given magnitude. -/
def readsBack (units grid point : Nat) : Bool :=
  roundRatio (point * 10 ^ grid) (5 ^ scaleBits) == units

/-- Chooses between the point below a value and the next one, given which of them qualify: of two
the nearer, and the even one at the same distance. `rest` is the way from the lower point to the
value, on a grid of the given step. -/
def chooseNeighbour (below rest step : Nat) : (lower upper : Bool) → Option Nat
  | true, true =>
    if 2 * rest < step || (2 * rest == step && below % 2 == 0) then some below else some (below + 1)
  | true, false => some below
  | false, true => some (below + 1)
  | false, false => none

/-- The point of a grid that reads back as the given magnitude and lies nearest to it, if there is
one: only the two points around it come into question. -/
def nearestPoint? (units grid : Nat) : Option Nat :=
  let below := decimalSteps units / 10 ^ grid
  chooseNeighbour below (decimalSteps units % 10 ^ grid) (10 ^ grid)
    (readsBack units grid below) (readsBack units grid (below + 1))

/-- The first answer among those for `start`, `start - 1`, …, `0`. -/
def searchDown {α : Type} (answer : Nat → Option α) : (start : Nat) → Option α
  | 0 => answer 0
  | n + 1 => (answer (n + 1)).orElse fun _ => searchDown answer n

/-- The decimal with the fewest digits that reads back as the given magnitude, and of those the
nearest to it. -/
def shortest (units : Nat) : Decimal :=
  let onGrid (grid : Nat) : Option Decimal :=
    (nearestPoint? units grid).map fun point => ⟨point, grid - scaleBits⟩
  let widest := (decimalSteps units).log2 * 30103 / 100000 + 1
  (searchDown onGrid widest).getD ⟨decimalSteps units, -scaleBits⟩

end NodeFlow.Binary64
