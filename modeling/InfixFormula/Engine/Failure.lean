import InfixFormula.Formula.Evaluation
import InfixFormula.Settings.Store

/-!
# Failures

What an operation of the engine may fail with: a fault with a code and a message, possibly with
the text it was found in, or one of the obstacles that have neither, such as a number that is
out of range or settings that cannot be read.
-/

set_option autoImplicit false

namespace InfixFormula

/-- Why an operation of the engine gives no result. -/
inductive Failure where
  /-- A fault, with the text of the formula where it is known. -/
  | fault (cause : Fault) (equation : Option String)
  | outOfRange
  | overlay (cause : OverlayFault)
  /-- The settings file is no text in UTF-8. -/
  | notText
  /-- An integer has too many digits to be read or written. -/
  | overlongInteger
  /-- A table with names that are no texts has no alphabetical order. -/
  | unorderedNames
  /-- A text that should be a number is none. -/
  | notNumeral
  | endOfInput

namespace Failure

/-- A fault without a text. -/
def ofFault (cause : Fault) : Failure :=
  .fault cause none

/-- A fault of evaluation. -/
def ofEvaluation : EvaluationFault → Failure
  | .unbound name => ofFault (.unboundVariable name)
  | .outOfRange => outOfRange

/-- A fault of arithmetic. -/
def ofRange (_ : OutOfRange) : Failure :=
  outOfRange

/-- A fault of writing a value. -/
def ofOverlong (_ : OverlongInteger) : Failure :=
  overlongInteger

/-- A fault of loading the settings file. -/
def ofLoad : LoadFault → Failure
  | .notText => notText
  | .overlongInteger => overlongInteger
  | .overlay cause => overlay cause

/-- A refusal of settings. -/
def ofRefusal : SettingRefusal → Failure
  | .fault cause => ofFault (.setting cause)
  | .overlongInteger => overlongInteger

/-- A fault of saving settings. -/
def ofSave : SaveFault → Failure
  | .overlay cause => overlay cause
  | .setting cause => ofFault (.setting cause)
  | .overlongInteger => overlongInteger

/-- What is wrong, in words. -/
def message : Failure → String
  | fault cause _ => cause.kind.name ++ ": " ++ cause.message
  | outOfRange => "A number is out of range."
  | overlay .notEntries => "The settings are no table of names and values."
  | overlay .notPair => "An item of the settings is no pair of a name and a value."
  | overlay .compoundName => "A name in the settings is an array or an object."
  | notText => "The settings file is no text."
  | overlongInteger => "An integer has too many digits."
  | unorderedNames => "The names of the settings have no order."
  | notNumeral => "The value is no number."
  | endOfInput => "The input has ended."

/-- The failure with the text of the formula. Internal faults have no text. -/
def withEquation (text : String) : Failure → Failure
  | .fault cause equation =>
      .fault cause (if cause.kind.carriesEquation then some text else equation)
  | failure => failure

end Failure

end InfixFormula
