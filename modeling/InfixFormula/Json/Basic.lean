import InfixFormula.Number.Basic
import InfixFormula.Text.Quoted

/-!
# JSON values

Settings are JSON values. Numbers keep the distinction between integers, which are exact, and
real numbers. Texts are sequences of UTF-16 units, which need not be characters. The fields of an
object keep the order in which their names first appeared.

Besides its JSON text a value has a literal form for messages (`Json.literal`), which quotes
text as messages do and spells the constants with capitals. A value with an integer of too many
digits somewhere in it has none.

Values may be nested to any depth. Reading, writing or showing a value by calls for every level may
run out of room on the way, at a depth that depends on what makes the first call; this is not
modelled.
-/

set_option autoImplicit false

namespace InfixFormula

/-- A JSON value. -/
inductive Json where
  | null
  | bool (value : Bool)
  | number (value : Number)
  | text (value : Utf16)
  | array (items : List Json)
  | object (fields : List (Utf16 × Json))

namespace Json

/-- Whether a value counts as set: null, false, zero and everything empty do not. -/
def isTruthy : Json → Bool
  | null => false
  | bool value => value
  | number value => !value.isZero
  | text value => !value.isEmpty
  | array items => !items.isEmpty
  | object fields => !fields.isEmpty

/-! ## The literal form -/

/-- A number in a message. -/
def numberLiteral : Number → Except OverlongInteger String
  | .integer value => writeInteger value
  | .real value => .ok (Binary64.text {} value)

mutual

/-- A value as messages show it. -/
def literal : Json → Except OverlongInteger String
  | null => .ok "None"
  | bool true => .ok "True"
  | bool false => .ok "False"
  | number value => numberLiteral value
  | text value => .ok (Text.quotedCodePoints value.codePoints)
  | array items => do
      let shown ← itemLiterals items
      pure ("[" ++ String.intercalate ", " shown ++ "]")
  | object fields => do
      let shown ← fieldLiterals fields
      pure ("\x7b" ++ String.intercalate ", " shown ++ "\x7d")

/-- The literal forms of the items of an array. -/
def itemLiterals : List Json → Except OverlongInteger (List String)
  | [] => .ok []
  | item :: items => do
      let shown ← item.literal
      let later ← itemLiterals items
      pure (shown :: later)

/-- The fields of an object in literal form. -/
def fieldLiterals : List (Utf16 × Json) → Except OverlongInteger (List String)
  | [] => .ok []
  | (name, value) :: fields => do
      let shown ← value.literal
      let later ← fieldLiterals fields
      pure ((Text.quotedCodePoints name.codePoints ++ ": " ++ shown) :: later)

end

end Json

end InfixFormula
