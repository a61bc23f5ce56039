import InfixFormula.Decimal.Layout

/-!
# Binary64 numbers

The real numbers of the engine are IEEE 754 binary64 values. Next to numbers and infinities the
format has values that are not a number, which stand outside the order of the others. All that
matters of such a value is its sign: it never changes a comparison, but it can become the sign of
an infinite power. So a value (`Binary64`) is either in the order, and then it is a float, or it is
not a number and has a sign.

An operation passes on the first of its operands that is not a number. Where an arithmetic
operation on ordered operands has no result, as for the difference of two infinities, it gives
the negative value that is not a number; a function outside its domain gives the positive one.

Beyond the operations this module has what the engine needs of the format: whether a value is an
odd integer; the values nearest to an integer, to a quotient of integers and to a decimal; and
the shortest text that is read back as the same value.
-/

set_option autoImplicit false

namespace InfixFormula

open Float.Model
open Float.Model.UnpackedFloat (Sign)

instance decidableEqSign : DecidableEq Sign
  | .positive, .positive | .negative, .negative => .isTrue rfl
  | .positive, .negative | .negative, .positive => .isFalse nofun

/-- A binary64 value. -/
inductive Binary64 where
  | ordered (value : Float) (isOrdered : value.isNaN = false)
  | notANumber (sign : Sign)
deriving DecidableEq

namespace Binary64

/-- The value of a float; a float that is not a number takes the sign that is given. -/
def ofFloat (sign : Sign) (x : Float) : Binary64 :=
  if isOrdered : x.isNaN = false then ordered x isOrdered else notANumber sign

instance : OfScientific Binary64 :=
  ⟨fun significand negative exponent =>
    ofFloat .positive (Float.ofScientific significand negative exponent)⟩

/-- Infinity. -/
def infinity : Binary64 := ofFloat .positive (1.0 / 0.0)

/-! ## Classes of values -/

/-- Whether a property holds of a value as a float, and the value is in the order. -/
def isOrderedAnd (property : Float → Bool) : Binary64 → Bool
  | ordered x _ => property x
  | notANumber _ => false

/-- Whether a value is a number and no infinity. -/
def isFinite : Binary64 → Bool :=
  isOrderedAnd Float.isFinite

/-- Whether a value is an infinity of either sign. -/
def isInfinite : Binary64 → Bool :=
  isOrderedAnd Float.isInf

/-- Whether a value is not a number. -/
def isNotANumber : Binary64 → Bool
  | ordered _ _ => false
  | notANumber _ => true

/-- Whether a value is zero, of either sign. -/
def isZero : Binary64 → Bool :=
  isOrderedAnd (· == 0.0)

/-- Whether a value is less than zero. -/
def isBelowZero : Binary64 → Bool :=
  isOrderedAnd (· < 0.0)

/-- Whether two values are equal: zeros of both signs are, and so are values that are not a
number. -/
def equals : Binary64 → Binary64 → Bool
  | ordered x _, ordered y _ => x == y
  | notANumber _, notANumber _ => true
  | _, _ => false

/-- Whether a value is an odd integer. A finite value is a mantissa times a power of two, so it
is odd when the mantissa is an odd multiple of the inverse of that power. -/
def isOdd : Binary64 → Bool :=
  isOrderedAnd fun x => match x.toModel.unpack with
    | .finite _ mantissa exponent _ =>
        if 0 < exponent then false
        else
          let unit := Nat.pow 2 exponent.natAbs
          mantissa % unit = 0 && mantissa / unit % 2 = 1
    | _ => false

/-- Whether a value is exactly an integer. -/
def isInteger (value : Binary64) (number : Int) : Bool :=
  value.isOrderedAnd fun x => match x.toModel.unpack with
    | .zero _ => number == 0
    | .finite sign mantissa exponent _ =>
        sign.apply mantissa * Nat.pow 2 exponent.toNat == number * Nat.pow 2 (-exponent).toNat
    | _ => false

/-! ## Signs -/

/-- The other sign. -/
def opposite : Sign → Sign
  | .positive => .negative
  | .negative => .positive

/-- The sign of a value; a zero has one as well. -/
def sign : Binary64 → Sign
  | ordered x _ => match x.toModel.unpack with
      | .notANumber => .positive
      | .infinity sign | .zero sign | .finite sign _ _ _ => sign
  | notANumber sign => sign

instance : Neg Binary64 where
  neg
    | ordered x _ => ofFloat .positive (-x)
    | notANumber sign => notANumber (opposite sign)

/-- A value without its sign. -/
def magnitude : Binary64 → Binary64
  | ordered x _ => ofFloat .positive x.abs
  | notANumber _ => notANumber .positive

/-- A value, or under the negative sign the opposite value. -/
def signed (sign : Sign) (value : Binary64) : Binary64 :=
  match sign with
  | .positive => value
  | .negative => -value

/-! ## Operations -/

/-- A function of floats on a value. -/
def lift (function : Float → Float) : Binary64 → Binary64
  | ordered x _ => ofFloat .positive (function x)
  | notANumber sign => notANumber sign

/-- An arithmetic operation of floats on two values. -/
def combine (operation : Float → Float → Float) : Binary64 → Binary64 → Binary64
  | notANumber sign, _ => notANumber sign
  | ordered _ _, notANumber sign => notANumber sign
  | ordered x _, ordered y _ => ofFloat .negative (operation x y)

instance : Add Binary64 := ⟨combine (· + ·)⟩

instance : Sub Binary64 := ⟨combine (· - ·)⟩

instance : Mul Binary64 := ⟨combine (· * ·)⟩

instance : Div Binary64 := ⟨combine (· / ·)⟩

/-- The power of two values. A power with the exponent zero and a power of one are one, even if
the other operand is not a number. -/
def pow : Binary64 → Binary64 → Binary64
  | notANumber sign, exponent => if exponent.isZero then 1.0 else notANumber sign
  | ordered x _, notANumber sign => if x == 1.0 then 1.0 else notANumber sign
  | ordered x _, ordered y _ => ofFloat .positive (Float.pow x y)

/-! ## Rounding to the nearest value -/

/-- An integer as a mantissa with a sign, before any rounding. -/
def unrounded (number : Int) : UnpackedFloat :=
  if nonzero : 0 < number.natAbs then
    .finite (if number < 0 then .negative else .positive) number.natAbs 0 nonzero
  else .zero .positive

/-- The value nearest to a quotient of integers, infinite if the quotient is out of range. The
quotient is rounded once, so the integers may be of any size. -/
def quotient (numerator denominator : Int) : Binary64 :=
  ofFloat .positive
    (.ofModel (.pack (.div .binary64 (unrounded numerator) (unrounded denominator))))

/-- The value nearest to an integer, and nothing if that is out of range. -/
def ofInteger? (number : Int) : Option Binary64 :=
  let nearest := ofFloat .positive (Float.ofInt number)
  if nearest.isInfinite then none else some nearest

/-- The value nearest to `significand * 10 ^ exponent`, infinite if that is out of range. -/
def ofDecimal (significand : Nat) (exponent : Int) : Binary64 :=
  ofFloat .positive (Float.ofScientific significand (exponent < 0) exponent.natAbs)

/-! ## Text -/

/-- The least mantissa of full length, which only powers of two have. -/
def leastFullMantissa : Nat := 0x10000000000000

/-- The cell of a positive value: it reaches half way to the neighbours, and the lower neighbour
of a power of two is half as far away as the upper one. Ties go to even mantissas, so the bounds
belong to the cell of an even one. -/
def cell (mantissa : Nat) (exponent : Int) : Cell where
  low :=
    if mantissa = leastFullMantissa ∧ -1074 < exponent then 4 * mantissa - 1
    else 4 * mantissa - 2
  value := 4 * mantissa
  high := 4 * mantissa + 2
  scale := exponent - 2
  closed := mantissa % 2 = 0

/-- The shortest text of a value that reads back as the same value. A value that is not a number
is written without its sign. -/
def text (layout : Decimal.Layout) : Binary64 → String
  | notANumber _ => layout.notANumber
  | ordered x _ => match x.toModel.unpack with
      | .notANumber => layout.notANumber
      | .infinity sign => signedText sign layout.infinity.toList
      | .zero sign => signedText sign ['0', '.', '0']
      | .finite sign mantissa exponent _ =>
          signedText sign (Decimal.write layout (cell mantissa exponent).shortest)
where
  /-- A text behind the sign of a value. -/
  signedText (sign : Sign) (magnitude : List Char) : String :=
    String.ofList (if sign == .negative then '-' :: magnitude else magnitude)

end Binary64

end InfixFormula
