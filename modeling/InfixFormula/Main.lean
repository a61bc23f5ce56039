import InfixFormula.Engine.Prompt

/-!
# The command line

The program holds the prompt's dialogue with the terminal. The settings file is `config.json` in
the current directory.
-/

set_option autoImplicit false

namespace InfixFormula

/-- Holds a dialogue with the terminal. -/
def converse {α : Type} : Dialogue α → IO α
  | .finish result => pure result
  | .say line next => do
      IO.println line
      converse next
  | .ask next => do
      let line ← (← IO.getStdin).getLine
      converse (next (if line.isEmpty then none else some (line.dropSuffix "\n").copy))

/-- The settings file of the current directory. -/
def settingsFile : IO SettingStore := do
  try
    let bytes ← IO.FS.readBinFile "config.json"
    pure ⟨some bytes⟩
  catch _ => pure ⟨none⟩

end InfixFormula

/-- Asks for one formula and shows its value. -/
def main : IO UInt32 := do
  let store ← InfixFormula.settingsFile
  match ← InfixFormula.converse (InfixFormula.Engine.prompt store) with
  | .ok () => pure 0
  | .error failure => do
      IO.eprintln failure.message
      pure 1
