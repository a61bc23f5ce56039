import InfixFormula.Number.Binary64

/-!
# Numbers

A value is an integer of any size or a binary64 number. Integers stay exact as long as they
meet only integers; together with a real number, or in a function of real numbers, an integer
is first converted, which fails when it is out of range (`Number.toReal`).
-/

set_option autoImplicit false

namespace InfixFormula

/-- An exact integer or a binary64 number. -/
inductive Number where
  | integer (value : Int)
  | real (value : Binary64)
deriving DecidableEq

/-- The one way in which arithmetic fails: an exact number has to become a binary64 number and is
beyond the largest of them. -/
structure OutOfRange where
deriving DecidableEq, Repr

namespace Number

/-- The number as a binary64 number. -/
def toReal : Number → Except OutOfRange Binary64
  | integer value => match Binary64.ofInteger? value with
      | some x => .ok x
      | none => .error {}
  | real value => .ok value

/-- Whether the number is zero, of either sign. -/
def isZero : Number → Bool
  | integer value => value == 0
  | real value => value.isZero

/-- Whether the number is less than zero. -/
def isBelowZero : Number → Bool
  | integer value => value < 0
  | real value => value.isBelowZero

/-- Whether two numbers are equal in value. An integer equals a real number only if it is exactly
that number, and a value that is not a number equals itself. -/
def equals : Number → Number → Bool
  | integer m, integer n => m == n
  | real x, real y => x.equals y
  | integer n, real x | real x, integer n => x.isInteger n

/-- Whether the number is an odd integer. -/
def isOdd : Number → Bool
  | integer value => value % 2 = 1
  | real value => value.isOdd

end Number

end InfixFormula
