import InfixFormula.Number.Basic

/-!
# Operators

The five binary operators on numbers. Sums, differences and products of integers are exact.
Division and powers follow the conventions of IEEE 754 instead of failing: dividing by a zero
gives an infinity whose sign depends on the sign of the zero, and a power that is out of range
is an infinity that keeps the sign of the basis only under an odd exponent. What is left to fail
is the conversion of an integer that is out of range.
-/

set_option autoImplicit false

namespace InfixFormula

/-- A binary operator. -/
inductive Operator where
  | add
  | subtract
  | multiply
  | divide
  | power
deriving DecidableEq, Repr

namespace Operator

/-- The operators, the weakest binding first. -/
def weakestFirst : List Operator :=
  [add, subtract, multiply, divide, power]

/-- The symbol that writes an operator. -/
def symbol : Operator → String
  | add => "+"
  | subtract => "-"
  | multiply => "*"
  | divide => "/"
  | power => "^"

/-- The operator that a symbol writes. -/
def ofSymbol? (symbol : String) : Option Operator :=
  weakestFirst.find? (·.symbol == symbol)

/-! ## Arithmetic -/

/-- An operation that is exact on two integers and otherwise works on real numbers. -/
def combine (onIntegers : Int → Int → Int) (onReals : Binary64 → Binary64 → Binary64)
    (left right : Number) : Except OutOfRange Number :=
  match left, right with
  | .integer m, .integer n => .ok (.integer (onIntegers m n))
  | _, _ => do
      let x ← left.toReal
      let y ← right.toReal
      pure (.real (onReals x y))

/-- The quotient by a zero: an infinity with the product of both signs, unless the dividend is
zero or not a number. -/
def divideByZero (dividend divisor : Number) : Except OutOfRange Number :=
  if dividend.isZero then .ok (.real (.notANumber .positive))
  else do
    let x ← dividend.toReal
    let zero ← divisor.toReal
    if x.isNotANumber then pure (.real (.notANumber .positive))
    else
      let sign := if x.sign = zero.sign then .positive else .negative
      pure (.real (Binary64.infinity.signed sign))

/-- The quotient; that of two integers is rounded once. -/
def quotient (dividend divisor : Number) : Except OutOfRange Number :=
  if divisor.isZero then divideByZero dividend divisor
  else match dividend, divisor with
  | .integer m, .integer n =>
      let nearest := Binary64.quotient m n
      if nearest.isInfinite then .error {} else .ok (.real nearest)
  | _, _ => do
      let x ← dividend.toReal
      let y ← divisor.toReal
      pure (.real (x / y))

/-- Infinity, with the sign of the basis under an odd exponent. -/
def infinitePower (basis exponent : Number) : Except OutOfRange Number :=
  if exponent.isOdd then do
    let x ← basis.toReal
    pure (.real (Binary64.infinity.signed x.sign))
  else .ok (.real Binary64.infinity)

/-- The power of two numbers. It is infinite for a zero under a negative exponent and wherever the
result, or an operand, is out of range; a power of finite numbers without a value is not a
number. -/
def raise (basis exponent : Number) : Except OutOfRange Number :=
  match basis.toReal, exponent.toReal with
  | .ok x, .ok y =>
      let result := x.pow y
      if !(x.isFinite && y.isFinite) then .ok (.real result)
      else if result.isNotANumber || (result.isInfinite && x.isZero) then
        if basis.isZero && exponent.isBelowZero then infinitePower basis exponent
        else .ok (.real (.notANumber .positive))
      else if result.isInfinite then infinitePower basis exponent
      else .ok (.real result)
  | _, _ => infinitePower basis exponent

/-- The result of an operator on two numbers. -/
def apply : Operator → Number → Number → Except OutOfRange Number
  | add => combine (· + ·) (· + ·)
  | subtract => combine (· - ·) (· - ·)
  | multiply => combine (· * ·) (· * ·)
  | divide => quotient
  | power => raise

end Operator

end InfixFormula
