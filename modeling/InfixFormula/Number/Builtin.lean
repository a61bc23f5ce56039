import InfixFormula.Number.Basic

/-!
# Built-in functions

The seven functions of one number that a formula may call. They give an infinity where the
argument or the result is out of range and a value that is not a number outside the domain.
The circular functions read their argument in a unit of angle; in degrees it is first converted,
and that conversion fails on an integer that is out of range.
-/

set_option autoImplicit false

namespace InfixFormula

/-- The unit in which the circular functions read an angle. -/
inductive AngleUnit where
  | radians
  | degrees
deriving DecidableEq, Repr

namespace AngleUnit

/-- The units of angle. -/
def all : List AngleUnit :=
  [radians, degrees]

/-- The name of a unit in the settings. -/
def name : AngleUnit → String
  | radians => "radians"
  | degrees => "degrees"

/-- An angle in radians. -/
def toRadians (angle : Binary64) : Binary64 :=
  angle * (3.141592653589793 / 180.0)

end AngleUnit

/-- A built-in function of one number. -/
inductive Builtin where
  | sin
  | cos
  | tan
  | sqrt
  | log
  | exp
  | abs
deriving DecidableEq, Repr

namespace Builtin

/-- The built-in functions. -/
def all : List Builtin :=
  [sin, cos, tan, sqrt, log, exp, abs]

/-- The name of a function. -/
def name : Builtin → String
  | sin => "sin"
  | cos => "cos"
  | tan => "tan"
  | sqrt => "sqrt"
  | log => "log"
  | exp => "exp"
  | abs => "abs"

/-- The function of a name. -/
def ofName? (name : String) : Option Builtin :=
  all.find? (·.name == name)

/-- Whether the argument of a function is an angle. -/
def isCircular : Builtin → Bool
  | sin | cos | tan => true
  | _ => false

/-- A function of real numbers, infinite when the argument is out of range. -/
def onReals (function : Float → Float) (argument : Number) : Number :=
  match argument.toReal with
  | .ok x => .real (x.lift function)
  | .error _ => .real Binary64.infinity

/-- The logarithm of an integer too large for a binary64 number: the integer is a fraction
between one half and one, rounded once, times a power of two. -/
def logOfLarge (number : Nat) : Binary64 :=
  let power := number.log2 + 1
  let fraction := Binary64.quotient number (Nat.pow 2 power)
  if fraction = 1.0 then logOfParts 0.5 (power + 1) else logOfParts fraction power
where
  /-- The logarithm of a fraction times a power of two. -/
  logOfParts (fraction : Binary64) (power : Nat) : Binary64 :=
    fraction.lift Float.log + .ofFloat .positive (Float.log 2.0 * Float.ofNat power)

/-- The natural logarithm: minus infinity at zero, and not a number below it. -/
def logarithm (argument : Number) : Number :=
  if argument.isZero then .real (-Binary64.infinity)
  else if argument.isBelowZero then .real (.notANumber .positive)
  else match argument with
  | .real x => .real (x.lift Float.log)
  | .integer number => match Binary64.ofInteger? number with
      | some x => .real (x.lift Float.log)
      | none => .real (logOfLarge number.natAbs)

/-- The absolute value; that of an integer is an integer. -/
def magnitude : Number → Number
  | .integer number => .integer number.natAbs
  | .real x => .real x.magnitude

/-- The value of a function at a number, where an angle is in radians. -/
def value : Builtin → Number → Number
  | sin => onReals Float.sin
  | cos => onReals Float.cos
  | tan => onReals Float.tan
  | sqrt => onReals Float.sqrt
  | exp => onReals Float.exp
  | log => logarithm
  | abs => magnitude

/-- The result of a function on a number, where an angle is in a unit. -/
def apply (function : Builtin) (unit : AngleUnit) (argument : Number) :
    Except OutOfRange Number :=
  if function.isCircular && unit == .degrees then do
    let angle ← argument.toReal
    pure (function.value (.real (AngleUnit.toRadians angle)))
  else .ok (function.value argument)

end Builtin

end InfixFormula
