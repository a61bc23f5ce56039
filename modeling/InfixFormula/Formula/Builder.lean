import InfixFormula.Formula.Basic
import InfixFormula.Logged
import InfixFormula.Term.Validation

/-!
# Building formulas

A list of terms is built into a formula from the outside in. Redundant brackets are stripped, and
what remains is a single term, a call, or a list that is split at the last occurrence outside
brackets of the weakest operator; so operators of one kind group from left to right. The parts
are built in the same way one level deeper, down to a greatest depth (`Builder.build`).

The recursion is on the levels that are left. The depth of a list, which the notes show, is the
number of levels above it.
-/

set_option autoImplicit false

namespace InfixFormula

/-- What the builder notes. -/
inductive BuildNote where
  | split (operator : Term) (index : Nat) (depth : Int)
  | noPrecedence (operators : List Term)
  | call (function : Term) (depth : Int)
  | equation (index : Nat)
deriving DecidableEq, Repr

namespace BuildNote

/-- The text of a note. -/
def text : BuildNote → String
  | split operator index depth =>
      "Split on '" ++ operator ++ "' at index " ++ integerText index ++ ", depth " ++
        integerText depth
  | noPrecedence operators =>
      "No operator of [" ++ String.intercalate ", " (operators.map Text.quoted) ++
        "] is in the precedence list"
  | call function depth => "Function " ++ function ++ " at depth " ++ integerText depth
  | equation index => "Equation split at index " ++ integerText index

end BuildNote

/-- A formula in the making, with the notes of the builder. -/
abbrev Build := Logged BuildNote Fault

/-- What the building of a formula depends on. -/
structure Builder where
  symbols : Symbols
  maxDepth : Nat
  angleUnit : AngleUnit

namespace Builder

/-- A formula in the making whose faults as an operand are turned into faults around it. -/
def around (turn : LeafFault → Fault) (build : Build Formula) : Build Formula :=
  build.mapFault (Fault.around turn)

/-- A single term: a variable or a numeral. -/
def leaf (builder : Builder) (term : Term) : Except Fault Formula :=
  if builder.symbols.isVariable term then .ok (.reference term)
  else match Numeral.read? term with
  | some value => .ok (.number value)
  | none => .error (.leaf (.notOperand term))

/-- The call of a function on the terms of its argument, which `build` builds. -/
def call (builder : Builder) (build : List Term → Build Formula) (depth : Int) (function : Term)
    (argument : List Term) : Build Formula := do
  if Bracket.outside (· == Term.separator) argument ≠ [] then
    Logged.fail (.severalArguments function)
  let formula ← around (.argument function) (build argument)
  Logged.note (.call function depth)
  Formula.ofFunction function builder.angleUnit formula

/-- Where a list of terms is split: the weakest operator outside brackets, at its last place. -/
def splitPoint? (symbols : Symbols) (terms : List Term) : Option (Term × Nat) :=
  let found := Bracket.lastOutside symbols.isOperator terms
  symbols.operators.findSome? fun operator => (found.lookup operator).map fun index =>
    (operator, index)

/-- The operators outside brackets in alphabetical order. -/
def outerOperators (symbols : Symbols) (terms : List Term) : List Term :=
  ((Bracket.lastOutside symbols.isOperator terms).map Prod.fst).mergeSort (· ≤ ·)

/-- A list of terms split at an operator, whose operands `build` builds. That there are operators
and none of them is in the order of precedence is an internal fault. -/
def split (builder : Builder) (build : List Term → Build Formula) (depth : Int)
    (terms : List Term) : Build Formula :=
  match splitPoint? builder.symbols terms with
  | none =>
      if Bracket.lastOutside builder.symbols.isOperator terms = [] then
        Logged.fail (.missingOperator terms)
      else do
        Logged.note (.noPrecedence (outerOperators builder.symbols terms))
        Logged.fail .noPrecedence
  | some (operator, index) => do
      Logged.note (.split operator index depth)
      let left ← around (.operand .left (.operator operator)) (build (terms.take index))
      let right ← around (.operand .right (.operator operator)) (build (terms.drop (index + 1)))
      Formula.ofOperator operator left right

/-- A list of terms without redundant brackets. -/
def buildUnwrapped (builder : Builder) (build : List Term → Build Formula) (depth : Int) :
    List Term → Build Formula
  | [] => Logged.fail (.leaf .empty)
  | [term] => builder.leaf term
  | function :: rest => do
      Validation.checkCalls builder.symbols (function :: rest)
      if builder.symbols.isFunction function && Bracket.isWrapped rest then
        builder.call build depth function (Bracket.interior rest)
      else builder.split build depth (function :: rest)

/-- The formula of a list of terms with a number of levels left. -/
def buildLevels (builder : Builder) : Nat → List Term → Build Formula
  | 0, _ => Logged.fail (.tooDeep builder.maxDepth)
  | levels + 1, terms =>
      builder.buildUnwrapped (builder.buildLevels levels) (builder.maxDepth - levels)
        (Bracket.unwrapped terms)

/-- The formula of a list of terms at a depth. -/
def buildAt (builder : Builder) (depth : Int) (terms : List Term) : Build Formula :=
  builder.buildLevels (builder.maxDepth + 1 - depth).toNat terms

/-- The formula of a list of terms. -/
def build (builder : Builder) (terms : List Term) : Build Formula :=
  builder.buildAt 0 terms

end Builder

end InfixFormula
