import InfixFormula.Engine.Failure
import InfixFormula.Formula.Equation
import InfixFormula.Term.Lexer

/-!
# The engine

The operations on formulas as a whole. They read terms, check them, build formulas with the
settings that are given or kept in the settings file, and evaluate them. What they print, besides
their result, are the notes of the builder when the settings ask for notes, and a note on an
internal fault when the settings file asks for it (`settle`).

The order of the steps decides which of several faults is reported: terms are validated before
the settings are looked at, and an equation is split before, but validated after it.
-/

set_option autoImplicit false

namespace InfixFormula

/-- A result or a failure, with the lines printed on the way. -/
abbrev Run := Logged String Failure

namespace Engine

/-! ## Printing notes -/

/-- A note as it is printed. -/
def noteLine (note : String) : String :=
  "[GraphEngine] " ++ note

/-- Prints a note, if notes are asked for; if that is left open, the settings file decides. -/
def printNote (store : SettingStore) (note : String) (enabled : Option Bool) : Run Unit := do
  let print ← match enabled with
    | some enabled => pure enabled
    | none => Logged.ofExcept (store.debugEnabled.mapError .ofLoad)
  if print then Logged.note (noteLine note)

/-- Prints a note on an internal fault, if the settings file asks for notes, and then fails with
the fault. -/
def failWith {α : Type} (store : SettingStore) (fault : Fault) : Run α := do
  match fault.internalNote? with
  | some note => printNote store note none
  | none => pure ()
  Logged.fail (.ofFault fault)

/-- A result of the builder with its notes printed, if they are asked for. -/
def settle {α : Type} (store : SettingStore) (debug : Bool) (build : Logged BuildNote Fault α) :
    Run α := do
  Logged.mk (if debug then build.notes.map fun note => noteLine note.text else []) (.ok ())
  match build.result with
  | .ok value => pure value
  | .error fault => failWith store fault

/-- A result without notes. -/
def settleResult {α : Type} (store : SettingStore) (result : Except Fault α) : Run α :=
  settle store false (Logged.ofExcept result)

/-! ## Settings -/

/-- The settings of a JSON value over the defaults. -/
def settingsOf (value : Json) : Except Failure Settings := do
  let table ← (Settings.tableOf value).mapError .overlay
  (Settings.ofTable table).mapError .ofRefusal

/-- The settings that are given, or for none those in the settings file. -/
def settings (store : SettingStore) (given : Json) : Except Failure Settings :=
  match given with
  | .null => do
      let table ← store.load.mapError .ofLoad
      (Settings.ofTable table).mapError .ofRefusal
  | value => settingsOf value

/-- A builder with settings. -/
def builder (symbols : Symbols) (settings : Settings) : Builder :=
  ⟨symbols, settings.maxDepth, settings.angleUnit⟩

/-! ## Building -/

/-- The formula of terms that are valid. -/
def create (store : SettingStore) (symbols : Symbols) (given : Json) (terms : List Term) :
    Run Formula := do
  let settings ← settings store given
  settle store settings.debug ((builder symbols settings).build terms)

/-- The formula of terms at a depth, where no settings mean the defaults. -/
def createAt (store : SettingStore) (symbols : Symbols) (given : Json) (depth : Int)
    (terms : List Term) : Run Formula := do
  let settings ← settingsOf given
  settle store settings.debug ((builder symbols settings).buildAt depth terms)

/-- The formula of terms, which are validated first. -/
def build (store : SettingStore) (symbols : Symbols) (given : Json) (terms : List Term) :
    Run Formula := do
  settleResult store (Validation.validate symbols terms)
  create store symbols given terms

/-- The formula of the terms of an equation. -/
def buildEquation (store : SettingStore) (symbols : Symbols) (given : Json) (terms : List Term) :
    Run Formula := do
  let equation ← settleResult store (Equation.ofTerms terms)
  let settings ← settings store given
  settle store settings.debug (equation.build (builder symbols settings))

/-- The terms of a text; a fault comes with the text. -/
def terms (symbols : Symbols) (text : String) : Except Failure (List Term) :=
  (Lexer.terms symbols text).mapError fun fault => (Failure.ofFault fault).withEquation text

/-- The formula of terms with or without an equals sign. -/
def buildEither (store : SettingStore) (given : Json) (terms : List Term) : Run Formula :=
  if Term.equals ∈ terms then buildEquation store {} given terms
  else build store {} given terms

/-- The formula of a text. -/
def buildText (store : SettingStore) (given : Json) (text : String) : Run Formula := do
  let terms ← terms {} text
  build store {} given terms

/-! ## Calculating -/

/-- The value of a formula as a binary64 number. -/
def evaluate (environment : Environment) (formula : Formula) : Except Failure Binary64 :=
  (formula.real environment).mapError .ofEvaluation

/-- The value of a text in an environment; of an equation, the left side minus the right side.
Every fault comes with the text. -/
def calculate (store : SettingStore) (given : Json) (text : String) (environment : Environment) :
    Run Binary64 :=
  Logged.mapFault (Failure.withEquation text) do
    let terms ← terms {} text
    let formula ← buildEither store given terms
    evaluate environment formula

end Engine

end InfixFormula
