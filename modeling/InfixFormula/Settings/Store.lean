import InfixFormula.Settings.Basic

/-!
# The settings file

Settings may be kept in a file, which holds one JSON value, laid over the defaults when the file
is loaded. A missing file and a text that is no JSON count as no settings at all; every other
obstacle to loading is a fault. Saving starts by emptying the file and then checks what it has to
write, so settings that are refused leave an empty file behind. What is accepted is written part by
part, and an integer with too many digits stops this half-way.
-/

set_option autoImplicit false

namespace InfixFormula

/-- The settings file: its bytes, or nothing if it is missing. -/
structure SettingStore where
  contents : Option ByteArray

/-- Why the settings file cannot be loaded. -/
inductive LoadFault where
  /-- The bytes are no text in UTF-8. -/
  | notText
  /-- The text has an integer with too many digits. -/
  | overlongInteger
  | overlay (fault : OverlayFault)
deriving DecidableEq, Repr

/-- Why settings are not saved. -/
inductive SaveFault where
  | overlay (fault : OverlayFault)
  | setting (fault : SettingFault)
  /-- An integer with too many digits has to be shown in a message or written to the file. -/
  | overlongInteger

/-- The fault of settings that are refused. -/
def SaveFault.ofRefusal : SettingRefusal → SaveFault
  | .fault cause => setting cause
  | .overlongInteger => overlongInteger

namespace SettingStore

/-- A file with a text. -/
def ofText (text : String) : SettingStore :=
  ⟨some text.toUTF8⟩

/-- The file before any settings are saved. -/
def initial : SettingStore :=
  ofText (Json.written Settings.defaults.chunks).1

/-- The settings in the file over the defaults. -/
def load (store : SettingStore) : Except LoadFault SettingTable :=
  match store.contents with
  | none => .ok Settings.defaults
  | some bytes => match String.fromUTF8? bytes with
    | none => .error .notText
    | some text => match Json.read text with
      | .ok value => (Settings.defaults.overlay value).mapError .overlay
      | .error .malformed => .ok Settings.defaults
      | .error .overlongInteger => .error .overlongInteger

/-- The setting of a name in the file, or a value in its place. -/
def loadValue (store : SettingStore) (name : String) (default : Json) :
    Except LoadFault Json := do
  let table ← store.load
  pure ((table.get? name).getD default)

/-- Whether the settings in the file ask for notes. -/
def debugEnabled (store : SettingStore) : Except LoadFault Bool := do
  let value ← store.loadValue "debug" (.bool false)
  pure value.isTruthy

/-- The table of the defaults under a JSON value, if the settings in it can be used. -/
def checked (value : Json) : Except SaveFault SettingTable := do
  let table ← (Settings.tableOf value).mapError .overlay
  let _ ← (Settings.ofTable table).mapError .ofRefusal
  pure table

/-- The file after an attempt to save settings, and why they are not saved, if they are not. -/
def save (value : Json) : SettingStore × Except SaveFault Unit :=
  match checked value with
  | .ok table =>
      let (text, outcome) := Json.written table.chunks
      (ofText text, outcome.mapError fun _ => .overlongInteger)
  | .error fault => (ofText "", .error fault)

end SettingStore

end InfixFormula
