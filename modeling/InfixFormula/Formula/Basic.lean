import InfixFormula.Fault.Basic

/-!
# Formulas

A formula is a tree of numbers, variables, operators and calls of built-in functions. A call
remembers the unit in which its function reads an angle. From outside, operators and functions
come as texts, and a text that names none is a fault (`ofOperator`, `ofFunction`).

The text of a formula (`Formula.text`) shows its nodes from the outside in.
-/

set_option autoImplicit false

namespace InfixFormula

/-- A formula. -/
inductive Formula where
  | number (value : Binary64)
  /-- A variable, to be looked up when the formula is evaluated. -/
  | reference (name : String)
  | binary (operator : Operator) (left right : Formula)
  | call (function : Builtin) (unit : AngleUnit) (argument : Formula)
deriving DecidableEq

namespace Formula

/-- An operator, given by its symbol, between two formulas. -/
def ofOperator (symbol : String) (left right : Formula) : Except Fault Formula :=
  match Operator.ofSymbol? symbol with
  | some operator => .ok (binary operator left right)
  | none => .error (.unknownOperator symbol)

/-- A function, given by its name, on a formula. -/
def ofFunction (name : String) (unit : AngleUnit) (argument : Formula) : Except Fault Formula :=
  match Builtin.ofName? name with
  | some function => .ok (call function unit argument)
  | none => .error (.unknownFunction name)

/-- The number of nodes on the longest way from the root to a leaf, without the leaf. -/
def height : Formula → Nat
  | number _ | reference _ => 0
  | binary _ left right => max left.height right.height + 1
  | call _ _ argument => argument.height + 1

/-- The variables in the order of reading, each as often as it occurs. -/
def occurrences : Formula → List String
  | number _ => []
  | reference name => [name]
  | binary _ left right => left.occurrences ++ right.occurrences
  | call _ _ argument => argument.occurrences

/-- The variables, each once, in alphabetical order. -/
def variableNames (formula : Formula) : List String :=
  formula.occurrences.eraseDups.mergeSort (· ≤ ·)

/-- The text that shows the nodes of a formula. -/
def text : Formula → String
  | number value => "Number(" ++ Binary64.text {} value ++ ")"
  | reference name => "Variable(" ++ Text.quoted name ++ ")"
  | binary operator left right =>
      "BinOp(" ++ Text.quoted operator.symbol ++ ", left=" ++ left.text ++ ", right=" ++
        right.text ++ ")"
  | call function _ argument =>
      "Function(" ++ Text.quoted function.name ++ ", " ++ argument.text ++ ")"

end Formula

end InfixFormula
