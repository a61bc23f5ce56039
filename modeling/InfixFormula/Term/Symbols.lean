import InfixFormula.Number.Builtin
import InfixFormula.Number.Numeral
import InfixFormula.Number.Operator

/-!
# Terms and symbols

A formula is a list of terms: numerals, names, operators and brackets, each a text. Which names
are variables or functions and which texts are operators is a table of symbols (`Symbols`),
whose operators are listed from the weakest to the strongest; the order is the only record of
precedence. A term may belong to several classes, and to none.
-/

set_option autoImplicit false

namespace InfixFormula

/-- A term of a formula. -/
abbrev Term := String

namespace Term

/-- The opening bracket. -/
abbrev opening : Term := "("

/-- The closing bracket. -/
abbrev closing : Term := ")"

/-- The separator of arguments. -/
abbrev separator : Term := ","

/-- The sign between the sides of an equation. -/
abbrev equals : Term := "="

/-- The operator that two adjacent factors leave out. -/
abbrev times : Term := "*"

/-- Whether a term can be read as a number. -/
def isNumeral (term : Term) : Bool :=
  (Numeral.read? term).isSome

end Term

/-- The terms with a meaning besides the numerals. -/
structure Symbols where
  variableNames : List Term := ["x", "y"]
  /-- The operators, the weakest binding first. -/
  operators : List Term := Operator.weakestFirst.map Operator.symbol
  functionNames : List Term := Builtin.all.map Builtin.name
  special : List Term := [Term.opening, Term.closing, Term.separator]

namespace Symbols

/-- Whether a term is a variable. -/
def isVariable (symbols : Symbols) (term : Term) : Bool :=
  symbols.variableNames.contains term

/-- Whether a term is an operator. -/
def isOperator (symbols : Symbols) (term : Term) : Bool :=
  symbols.operators.contains term

/-- Whether a term names a function. -/
def isFunction (symbols : Symbols) (term : Term) : Bool :=
  symbols.functionNames.contains term

/-- Whether a term is a special character. -/
def isSpecial (symbols : Symbols) (term : Term) : Bool :=
  symbols.special.contains term

/-- Whether a term belongs to at least one class. -/
def isKnown (symbols : Symbols) (term : Term) : Bool :=
  term.isNumeral || symbols.isVariable term || symbols.isOperator term ||
    symbols.isFunction term || symbols.isSpecial term

end Symbols

end InfixFormula
