import InfixFormula.Formula.Basic

/-!
# Evaluation

An environment gives variables their values. A formula is evaluated from the leaves up, the left
operand before the right one, so the fault of an unbound variable names the first of them in the
order of reading. The value of a whole formula is a binary64 number in the end (`Formula.real`),
while on the way integers from the environment stay exact (`Formula.value`).
-/

set_option autoImplicit false

namespace InfixFormula

/-- The values of variables. -/
abbrev Environment := String → Option Number

/-- Why a formula has no value. -/
inductive EvaluationFault where
  | unbound (name : String)
  | outOfRange
deriving DecidableEq, Repr

namespace EvaluationFault

/-- An operation out of range as a fault of evaluation. -/
def ofRange (_ : OutOfRange) : EvaluationFault :=
  outOfRange

end EvaluationFault

namespace Formula

/-- The value of a formula in an environment. -/
def value (environment : Environment) : Formula → Except EvaluationFault Number
  | number value => .ok (.real value)
  | reference name => match environment name with
      | some value => .ok value
      | none => .error (.unbound name)
  | binary operator left right => do
      let x ← left.value environment
      let y ← right.value environment
      (operator.apply x y).mapError .ofRange
  | call function unit argument => do
      let x ← argument.value environment
      (function.apply unit x).mapError .ofRange

/-- The value of a formula as a binary64 number. -/
def real (environment : Environment) (formula : Formula) : Except EvaluationFault Binary64 := do
  let value ← formula.value environment
  value.toReal.mapError .ofRange

end Formula

end InfixFormula
