import InfixFormula.Formula.Builder

/-!
# Equations

An equation has one equals sign, outside every bracket. Its formula is the difference of its
sides: the equation holds where the formula is zero, and the sign of the formula tells on which
side of the equation's curve a point lies.
-/

set_option autoImplicit false

namespace InfixFormula

/-- The two sides of an equation and the index of the sign between them. -/
structure Equation where
  left : List Term
  right : List Term
  index : Nat

namespace Equation

/-- The sides of a list of terms with exactly one equals sign, outside every bracket. -/
def ofTerms (terms : List Term) : Except Fault Equation :=
  let count := terms.count Term.equals
  if count ≠ 1 then .error (.equalsCount count)
  else if Bracket.outside (· == Term.equals) terms = [] then .error .equalsInBrackets
  else
    let index := terms.idxOf Term.equals
    .ok ⟨terms.take index, terms.drop (index + 1), index⟩

/-- The formula of an equation: the left side minus the right side. Both sides are checked
before the first is built. -/
def build (builder : Builder) (equation : Equation) : Build Formula := do
  Validation.validate builder.symbols equation.left
  Validation.validate builder.symbols equation.right
  let left ← Builder.around (.operand .left .equation) (builder.build equation.left)
  let right ← Builder.around (.operand .right .equation) (builder.build equation.right)
  Logged.note (.equation equation.index)
  pure (.binary .subtract left right)

end Equation

end InfixFormula
