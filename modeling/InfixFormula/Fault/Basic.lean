import InfixFormula.Fault.Kind
import InfixFormula.Settings.Basic
import InfixFormula.Term.Symbols

/-!
# Faults

Everything that can be wrong with a formula, its evaluation or the settings is a cause
(`Fault`), and a cause determines its kind, its code and its message. A list of terms that should
be a single operand and is none has a fault of its own type (`LeafFault`), because only such a
fault is turned into a fault of the operator, function or equation around the list; there it
stays as the cause.

The last five faults are internal: they say that a part of the engine was used on what the checks
of a formula exclude.
-/

set_option autoImplicit false

namespace InfixFormula

/-- What is missing after the name of a function. -/
inductive CallPart where
  | brackets
  | opening
  | closing
deriving DecidableEq, Repr

/-- What is wrong with the call of a function. -/
structure CallFault where
  function : Term
  missing : CallPart
deriving DecidableEq, Repr

/-- Why a list of terms is no single operand. -/
inductive LeafFault where
  | empty
  | notOperand (term : Term)
deriving DecidableEq, Repr

/-- A side of an operator or of an equation. -/
inductive Side where
  | left
  | right
deriving DecidableEq, Repr

/-- What has the two sides. -/
inductive Divider where
  | operator (symbol : Term)
  | equation
deriving DecidableEq, Repr

/-- What can be wrong, by cause. -/
inductive Fault where
  /-- A number with a second point; its text up to there. -/
  | secondPoint (start : String)
  | unmatchedBrackets (terms : List Term)
  | unclosedCall (call : CallFault)
  | unknownTerm (term : Term)
  | malformedCall (call : CallFault)
  | leaf (fault : LeafFault)
  | operand (side : Side) (divider : Divider) (cause : LeafFault)
  | tooDeep (limit : Nat)
  | missingOperator (terms : List Term)
  | severalArguments (function : Term)
  | argument (function : Term) (cause : LeafFault)
  | equalsCount (count : Nat)
  | equalsInBrackets
  | unboundVariable (name : String)
  | setting (fault : SettingFault)
  /-- Operators outside brackets, and none of them in the order of precedence. -/
  | noPrecedence
  | unknownFunction (name : String)
  | bracketOutside (index : Int) (length : Nat)
  | notBracket (term : Term) (index : Int)
  | unknownOperator (symbol : String)

namespace CallPart

/-- The missing text. -/
def text : CallPart → String
  | brackets => "(...)"
  | opening => "("
  | closing => ")"

end CallPart

namespace CallFault

/-- The message of a fault of a call. -/
def message (fault : CallFault) : String :=
  "Missing '" ++ fault.missing.text ++ "' after function '" ++ fault.function ++ "'"

end CallFault

namespace LeafFault

/-- The message of a fault of an operand. -/
def message : LeafFault → String
  | empty => "Empty expression."
  | notOperand term => "Invalid single-term expression: " ++ Text.quoted term

end LeafFault

/-- The name of a side. -/
def Side.text : Side → String
  | left => "left"
  | right => "right"

namespace Divider

/-- What a side of the divider is called. -/
def sideText : Divider → String
  | operator symbol => "operand of '" ++ symbol ++ "'"
  | equation => "side of '='"

end Divider

namespace Fault

/-- The kind of a fault. -/
def kind : Fault → FaultKind
  | secondPoint _ => .malformedNumber
  | unmatchedBrackets _ => .unmatchedBrackets
  | unclosedCall _ => .unclosedFunction
  | unknownTerm _ => .invalidTerm
  | malformedCall _ => .functionBrackets
  | leaf .empty => .emptyExpression
  | leaf (.notOperand _) => .invalidSingleTerm
  | operand .left _ _ => .leftOperand
  | operand .right _ _ => .rightOperand
  | tooDeep _ => .nestingDepth
  | missingOperator _ => .missingOperator
  | severalArguments _ | argument _ _ => .functionArgument
  | equalsCount _ | equalsInBrackets => .equation
  | unboundVariable _ => .unknownVariable
  | setting _ => .configuration
  | noPrecedence | unknownFunction _ | bracketOutside _ _ | notBracket _ _ | unknownOperator _ =>
      .internal

/-- The code of a fault. -/
def code : Fault → String
  | secondPoint _ => "1000"
  | unmatchedBrackets _ => "3000"
  | unknownTerm _ => "3001"
  | malformedCall _ => "3002"
  | operand .left _ _ => "3003"
  | operand .right _ _ => "3004"
  | tooDeep _ => "3005"
  | missingOperator _ => "3006"
  | severalArguments _ | argument _ _ => "3007"
  | unclosedCall _ => "3008"
  | equalsCount _ | equalsInBrackets => "3009"
  | leaf .empty => "3100"
  | leaf (.notOperand _) => "3101"
  | unboundVariable _ => "4000"
  | setting _ => "5000"
  | noPrecedence => "7000"
  | unknownFunction _ => "7001"
  | bracketOutside _ _ | notBracket _ _ => "7002"
  | unknownOperator _ => "7003"

/-- The message of a fault. -/
def message : Fault → String
  | secondPoint start => "More than one '.' in number starting '" ++ start ++ "'"
  | unmatchedBrackets terms => "Unmatched brackets in: " ++ String.intercalate " " terms
  | unclosedCall call | malformedCall call => call.message
  | unknownTerm term => "Unrecognised term: " ++ Text.quoted term
  | leaf fault => fault.message
  | operand side divider cause =>
      "Invalid " ++ side.text ++ " " ++ divider.sideText ++ ": " ++ cause.message
  | tooDeep limit => "Expression nested deeper than " ++ integerText limit ++ " levels"
  | missingOperator terms =>
      "Missing operator between terms: " ++ String.intercalate " " terms
  | severalArguments function => "Function '" ++ function ++ "' takes exactly one argument"
  | argument function cause => "Invalid argument of '" ++ function ++ "': " ++ cause.message
  | equalsCount count => "An equation needs exactly one '=', found " ++ integerText count
  | equalsInBrackets => "'=' must not be inside brackets"
  | unboundVariable name => "No value given for variable '" ++ name ++ "'"
  | setting fault => fault.message
  | noPrecedence => "No operator matched the precedence list."
  | unknownFunction name => "Unrecognised function: " ++ Text.quoted name
  | bracketOutside index length =>
      "Bracket index " ++ integerText index ++ " outside terms of length " ++ integerText length
  | notBracket term _ => "Term is not a bracket: " ++ Text.quoted term
  | unknownOperator symbol => "Unknown operator: " ++ Text.quoted symbol

/-- The fault that a fault was turned from. -/
def cause? : Fault → Option Fault
  | operand _ _ cause | argument _ cause => some (leaf cause)
  | _ => none

/-- What the engine notes when it meets an internal fault, and nothing for the other faults. The
builder notes for itself that no operator has a precedence. -/
def internalNote? : Fault → Option String
  | unknownFunction name => some ("Function built with unknown name " ++ Text.quoted name)
  | bracketOutside index length => some (bracketOutside index length).message
  | notBracket term index => some
      ("Bracket query on non-bracket " ++ Text.quoted term ++ " at index " ++ integerText index)
  | unknownOperator symbol =>
      some ("BinOp built with unknown operator " ++ Text.quoted symbol)
  | _ => none

/-- Turns a fault of an operand into a fault of what is around it, and leaves other faults. -/
def around (turn : LeafFault → Fault) : Fault → Fault
  | leaf fault => turn fault
  | fault => fault

end Fault

end InfixFormula
