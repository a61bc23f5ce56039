import InfixFormula.Decimal.Shortest

/-!
# The layout of decimals

How the digits of a number are set out is a matter of convention, and one record
(`Decimal.Layout`) holds all of it: between which powers of ten the digits are written
positionally, how wide an exponent is at least, and what the values without digits are called.

Integers are written in plain decimal digits. The number of these digits is limited: a larger
integer is neither read nor written (`writeInteger`).
-/

set_option autoImplicit false

namespace InfixFormula

/-- An integer in decimal digits, with a sign if it is negative. -/
def integerText (number : Int) : String :=
  String.ofList
    (if number < 0 then '-' :: Nat.toDigits 10 number.natAbs else Nat.toDigits 10 number.natAbs)

/-- The greatest number of digits of an integer that is read from a text or written to one. -/
def integerDigitLimit : Nat := 4300

/-- The one way in which writing a value fails: an integer has too many digits. -/
structure OverlongInteger where
deriving DecidableEq, Repr

/-- An integer in decimal digits, if they are not too many. -/
def writeInteger (number : Int) : Except OverlongInteger String :=
  if (Nat.toDigits 10 number.natAbs).length ≤ integerDigitLimit then .ok (integerText number)
  else .error {}

namespace Decimal

/-- The conventions of writing real numbers. -/
structure Layout where
  /-- The least power of ten of a leading digit that is written positionally. -/
  leastPositional : Int := -4
  /-- The first power of ten of a leading digit that is written with an exponent. -/
  firstScientific : Int := 16
  /-- The least number of digits of an exponent. -/
  exponentWidth : Nat := 2
  /-- The text of infinity. -/
  infinity : String := "inf"
  /-- The text of the value that is not a number. -/
  notANumber : String := "nan"

/-- The digits with the decimal point behind the first `whole` of them, where `whole` may lie
outside the digits on either side; at least one digit stands on each side of the point. -/
def positional (digits : List Char) (whole : Int) : List Char :=
  if whole ≤ 0 then '0' :: '.' :: List.replicate (-whole).toNat '0' ++ digits
  else if digits.length ≤ whole then
    digits ++ List.replicate (whole.toNat - digits.length) '0' ++ ['.', '0']
  else digits.take whole.toNat ++ '.' :: digits.drop whole.toNat

/-- The digits with the point behind the first, if there are more, and the power of ten. -/
def scientific (layout : Layout) (digits : List Char) (power : Int) : List Char :=
  let mantissa := match digits with
    | first :: second :: rest => first :: '.' :: second :: rest
    | short => short
  mantissa ++ 'e' :: (if power < 0 then '-' else '+') ::
    (Nat.toDigits 10 power.natAbs).leftpad layout.exponentWidth '0'

/-- A positive decimal in a layout. -/
def write (layout : Layout) (decimal : Decimal) : List Char :=
  let digits := Nat.toDigits 10 decimal.significand
  let power := decimal.exponent + digits.length - 1
  if layout.leastPositional ≤ power ∧ power < layout.firstScientific then
    positional digits (power + 1)
  else scientific layout digits power

end Decimal

end InfixFormula
