/-!
# The shortest decimal of a cell

A binary format rounds every real number of a *cell* to the same value. The text of that value
should be the decimal with the fewest digits inside the cell, and among those the one nearest
to the value. Fewest digits means the coarsest grid of multiples of a power of ten that meets
the cell, and on the coarsest such grid one of the two grid points next to the value lies in
the cell, since a cell is an interval around its value. So the search (`shortest`) walks down
the powers of ten from one above the cell and stops at the first grid with a hit.

All bounds of a cell are multiples of one power of two, so the comparison with a grid point is
exact arithmetic on natural numbers.
-/

set_option autoImplicit false

namespace InfixFormula

/-- The positive decimal `significand * 10 ^ exponent`. -/
structure Decimal where
  significand : Nat
  exponent : Int
deriving DecidableEq, Repr

/-- The interval around a positive value whose numbers all round to it. The bounds and the value
are multiples of `2 ^ scale`, and `closed` says whether the bounds belong to the interval. -/
structure Cell where
  low : Nat
  value : Nat
  high : Nat
  scale : Int
  closed : Bool

namespace Cell

/-- The factors that compare a multiple of `2 ^ scale` with a multiple of `10 ^ exponent`: a
number `a * 2 ^ scale` is `b * 10 ^ exponent` exactly when `a * factors.1 = b * factors.2`. -/
def factors (cell : Cell) (exponent : Int) : Nat × Nat :=
  (Nat.pow 2 cell.scale.toNat * Nat.pow 10 (-exponent).toNat,
    Nat.pow 2 (-cell.scale).toNat * Nat.pow 10 exponent.toNat)

/-- Whether `significand * 10 ^ exponent` lies in the cell. -/
def contains (cell : Cell) (decimal : Decimal) : Bool :=
  let (up, down) := cell.factors decimal.exponent
  let point := decimal.significand * down
  if cell.closed then cell.low * up ≤ point && point ≤ cell.high * up
  else cell.low * up < point && point < cell.high * up

/-- The nearer to the value of two neighbouring grid points, the even one if they are equally
near. -/
def nearer (cell : Cell) (exponent : Int) (below : Nat) : Nat :=
  let (up, down) := cell.factors exponent
  let twice := 2 * cell.value * up
  let middle := (2 * below + 1) * down
  if twice < middle then below
  else if middle < twice then below + 1
  else if below % 2 = 0 then below else below + 1

/-- The best point in the cell of the grid of multiples of a power of ten, if the grid meets the
cell: the points next to the value are the only candidates. -/
def onGrid? (cell : Cell) (exponent : Int) : Option Decimal :=
  let (up, down) := cell.factors exponent
  let below := cell.value * up / down
  match cell.contains ⟨below, exponent⟩, cell.contains ⟨below + 1, exponent⟩ with
  | true, true => some ⟨cell.nearer exponent below, exponent⟩
  | true, false => some ⟨below, exponent⟩
  | false, true => some ⟨below + 1, exponent⟩
  | false, false => none

/-- The first grid with a hit, from a power of ten downwards, within a number of steps. -/
def search (cell : Cell) : Nat → Int → Decimal
  | 0, exponent => (cell.onGrid? exponent).getD ⟨cell.value, exponent⟩
  | steps + 1, exponent =>
      match cell.onGrid? exponent with
      | some decimal => decimal
      | none => cell.search steps (exponent - 1)

/-- A power of ten above every number of the cell: `0.30103` is just above the decimal logarithm
of two. -/
def topExponent (cell : Cell) : Int :=
  (cell.high.log2 + 1 + cell.scale) * 30103 / 100000 + 1

/-- The decimal of the cell with the fewest digits, the nearest to the value among those. A cell
of a binary64 value is met by a grid of at most seventeen digits, well within the steps. -/
def shortest (cell : Cell) : Decimal :=
  cell.search 25 cell.topExponent

end Cell

end InfixFormula
