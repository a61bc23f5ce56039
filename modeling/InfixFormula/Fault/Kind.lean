/-!
# Kinds of fault

Every fault has a kind, and the kinds form a hierarchy: a caller that handles a kind handles the
kinds below it. The hierarchy is a tree below two roots except at one place: a call that is
never closed is both a fault of matching brackets and a fault of function brackets. The
`lineage` of a kind lists it and the kinds above it, each before those that it stands below.
-/

set_option autoImplicit false

namespace InfixFormula

/-- A kind of fault. -/
inductive FaultKind where
  /-- Any fault of a formula, of its evaluation or of the settings. -/
  | math
  /-- A fault of a list of terms that is more than one operand. -/
  | compound
  | unmatchedBrackets
  | invalidTerm
  | functionBrackets
  | operand
  | leftOperand
  | rightOperand
  | nestingDepth
  | missingOperator
  | functionArgument
  | unclosedFunction
  | equation
  /-- A fault of a list of terms that should be one operand. -/
  | baseCase
  | emptyExpression
  | invalidSingleTerm
  | evaluation
  | unknownVariable
  | tokenizer
  | malformedNumber
  | configuration
  /-- A state that the checks of a formula exclude. -/
  | internal
deriving DecidableEq, Repr

namespace FaultKind

/-- The name of a kind. -/
def name : FaultKind → String
  | math => "MathError"
  | compound => "CompoundError"
  | unmatchedBrackets => "UnmatchedBracketsError"
  | invalidTerm => "InvalidTermError"
  | functionBrackets => "FunctionBracketsError"
  | operand => "OperandError"
  | leftOperand => "LeftOperandError"
  | rightOperand => "RightOperandError"
  | nestingDepth => "NestingDepthError"
  | missingOperator => "MissingOperatorError"
  | functionArgument => "FunctionArgumentError"
  | unclosedFunction => "UnclosedFunctionError"
  | equation => "EquationError"
  | baseCase => "BaseCaseError"
  | emptyExpression => "EmptyExpressionError"
  | invalidSingleTerm => "InvalidSingleTermError"
  | evaluation => "EvaluationError"
  | unknownVariable => "UnknownVariableError"
  | tokenizer => "TokenizerError"
  | malformedNumber => "MalformedNumberError"
  | configuration => "ConfigurationError"
  | internal => "InternalError"

/-- The kind and the kinds above it, each before those that it stands below. -/
def lineage : FaultKind → List FaultKind
  | math => [math]
  | internal => [internal]
  | unclosedFunction =>
      [unclosedFunction, unmatchedBrackets, functionBrackets, compound, math]
  | leftOperand => [leftOperand, operand, compound, math]
  | rightOperand => [rightOperand, operand, compound, math]
  | emptyExpression => [emptyExpression, baseCase, math]
  | invalidSingleTerm => [invalidSingleTerm, baseCase, math]
  | unknownVariable => [unknownVariable, evaluation, math]
  | malformedNumber => [malformedNumber, tokenizer, math]
  | compound => [compound, math]
  | baseCase => [baseCase, math]
  | evaluation => [evaluation, math]
  | tokenizer => [tokenizer, math]
  | configuration => [configuration, math]
  | unmatchedBrackets => [unmatchedBrackets, compound, math]
  | invalidTerm => [invalidTerm, compound, math]
  | functionBrackets => [functionBrackets, compound, math]
  | operand => [operand, compound, math]
  | nestingDepth => [nestingDepth, compound, math]
  | missingOperator => [missingOperator, compound, math]
  | functionArgument => [functionArgument, compound, math]
  | equation => [equation, compound, math]

/-- Whether a kind is another one or stands below it. -/
def isA (kind other : FaultKind) : Bool :=
  kind.lineage.contains other

/-- Whether a fault of a kind can carry the text that it was found in. -/
def carriesEquation (kind : FaultKind) : Bool :=
  !kind.isA internal

end FaultKind

end InfixFormula
