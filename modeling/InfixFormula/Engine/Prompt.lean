import InfixFormula.Engine.Basic

/-!
# The prompt

A short dialogue: it asks for a formula or an equation, shows the tree that is built, asks for
the value of each variable in alphabetical order, and shows the result. A dialogue is a value of
its own (`Dialogue`), which can be held with a terminal or with a list of lines.
-/

set_option autoImplicit false

namespace InfixFormula

/-- A dialogue that ends with a result. The answer to a question is missing when the input has
come to its end. -/
inductive Dialogue (α : Type) where
  | finish (result : α)
  | say (line : String) (next : Dialogue α)
  | ask (next : Option String → Dialogue α)

namespace Dialogue

/-- Says some lines and goes on. -/
def sayAll {α : Type} (lines : List String) (next : Dialogue α) : Dialogue α :=
  lines.foldr say next

/-- Holds a dialogue with the lines of an input: what is said, and the result. -/
def hold {α : Type} : Dialogue α → List String → List String × α
  | finish result, _ => ([], result)
  | say line next, input =>
      let (said, result) := next.hold input
      (line :: said, result)
  | ask next, [] => (next none).hold []
  | ask next, line :: input => (next (some line)).hold input

end Dialogue

namespace Engine

/-- Asks for the values of variables and shows the value of the formula. -/
def askValues (formula : Formula) : List String → (String → Option Number) →
    Dialogue (Except Failure Unit)
  | [], environment => match evaluate environment formula with
      | .ok value => .say (Binary64.text {} value) (.finish (.ok ()))
      | .error failure => .finish (.error failure)
  | name :: names, environment => .say (name ++ " = ") <| .ask fun
      | none => .finish (.error .endOfInput)
      | some answer => match Numeral.read? answer with
          | none => .finish (.error .notNumeral)
          | some value => askValues formula names fun other =>
              if other = name then some (.real value) else environment other

/-- The dialogue about one formula. -/
def prompt (store : SettingStore) : Dialogue (Except Failure Unit) :=
  .say "Enter the equation: " <| .ask fun
    | none => .finish (.error .endOfInput)
    | some text =>
        let run : Run Formula := do
          let terms ← terms {} text
          buildEither store .null terms
        Dialogue.sayAll run.notes <| match run.result with
          | .error failure => .finish (.error failure)
          | .ok formula => .say formula.text (askValues formula formula.variableNames fun _ => none)

end Engine

end InfixFormula
