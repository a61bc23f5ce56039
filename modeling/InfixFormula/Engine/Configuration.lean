import InfixFormula.Engine.Failure

/-!
# Operations on settings

Loading, checking and saving settings, with their answers as JSON text on one line. The name
`all` stands for the whole table of settings.
-/

set_option autoImplicit false

namespace InfixFormula.Engine

/-- A value as JSON text. -/
def valueText (value : Json) : Except Failure Utf16 :=
  value.compact.mapError .ofOverlong

/-- A table of settings as JSON text with its names in alphabetical order. Names that are no texts
have no place in that order. -/
def tableText (table : SettingTable) : Except Failure Utf16 :=
  if table.all fun entry => (SettingTable.field? entry).isSome then
    valueText (.object table.fields)
  else .error .unorderedNames

/-- A setting from the settings file, or a value in its place. -/
def loadText (store : SettingStore) (name : String) (default : Json) : Except Failure Utf16 :=
  if name = "all" then do
    let table ← store.load.mapError .ofLoad
    tableText table
  else do
    let value ← (store.loadValue name default).mapError .ofLoad
    valueText value

/-- The table of the defaults under a JSON value, if the settings in it can be used. -/
def checkText (given : Json) : Except Failure Utf16 := do
  let table ← (SettingStore.checked given).mapError .ofSave
  tableText table

/-- The settings file after saving a JSON value, and the value as it was given. -/
def saveText (given : Json) : SettingStore × Except Failure Utf16 :=
  let (store, outcome) := SettingStore.save given
  (store, outcome.mapError .ofSave >>= fun _ => valueText given)

end InfixFormula.Engine
