import InfixFormula.Json.Basic
import InfixFormula.Text.Hexadecimal

/-!
# Writing JSON

A value has two written forms. On one line (`Json.compact`) the fields of every object are
sorted by name and units outside ASCII stand for themselves, so the form is a text of units
again; answers use it. Over several lines fields keep their order, each item stands on a line of
its own, and every unit outside ASCII is escaped, so the form is a plain string; the settings file
uses it.

An integer with too many digits has no written form. The second form is made part by part
(`Json.chunks`), and each part is written as soon as it is made, so such an integer stops the
writing on the way, with what stands in front of it already written (`Json.written`).
-/

set_option autoImplicit false

namespace InfixFormula.Json

/-! ## Text and numbers -/

/-- The number of a unit as an escape sequence. -/
def unitNumber (unit : UInt16) : List Char :=
  '\\' :: 'u' :: Text.hexadecimal 4 unit.toNat

/-- The escape sequence of a unit that no JSON string may hold unescaped. -/
def escape? (unit : UInt16) : Option (List Char) :=
  if unit = 0x22 then some ['\\', '\x22']
  else if unit = 0x5c then some ['\\', '\\']
  else if unit = 0x0a then some ['\\', 'n']
  else if unit = 0x0d then some ['\\', 'r']
  else if unit = 0x09 then some ['\\', 't']
  else if unit = 0x08 then some ['\\', 'b']
  else if unit = 0x0c then some ['\\', 'f']
  else if unit < 0x20 then some (unitNumber unit)
  else none

/-- A unit inside a JSON string of ASCII characters. -/
def asciiUnit (unit : UInt16) : List Char :=
  (escape? unit).getD
    (if unit < 0x7f then [Char.ofNat unit.toNat] else unitNumber unit)

/-- A text as a JSON string of ASCII characters. -/
def asciiString (text : Utf16) : String :=
  String.ofList ('\x22' :: text.units.flatMap asciiUnit ++ ['\x22'])

/-- A unit inside a JSON string. -/
def stringUnit (unit : UInt16) : List UInt16 :=
  match escape? unit with
  | some sequence => sequence.flatMap CodePoint.unitsOfChar
  | none => [unit]

/-- A text as a JSON string. -/
def string (text : Utf16) : Utf16 :=
  ⟨0x22 :: text.units.flatMap stringUnit ++ [0x22]⟩

/-- The names of the real numbers without digits. -/
def numberLayout : Decimal.Layout :=
  { infinity := "Infinity", notANumber := "NaN" }

/-- A number in JSON, unless it is an integer with too many digits. -/
def writeNumber : Number → Except OverlongInteger String
  | .integer value => writeInteger value
  | .real value => .ok (Binary64.text numberLayout value)

/-- The JSON spelling of a truth value. -/
def truthText (value : Bool) : String :=
  if value then "true" else "false"

/-! ## One line -/

mutual

/-- A value on one line, the fields of objects sorted by name. -/
def compact : Json → Except OverlongInteger Utf16
  | null => .ok "null"
  | bool value => .ok (truthText value)
  | number value => (writeNumber value).map fun text => text
  | text value => .ok (string value)
  | array items => do
      let shown ← compactItems items
      pure (("[" : Utf16) ++ Utf16.intercalate ", " shown ++ ("]" : Utf16))
  | object fields => do
      let shown ← compactFields fields
      let sorted := shown.mergeSort fun a b => a.1.precedes b.1
      pure (("\x7b" : Utf16) ++ Utf16.intercalate ", " (sorted.map fun field =>
        string field.1 ++ (": " : Utf16) ++ field.2) ++ ("\x7d" : Utf16))

/-- The items of an array on one line each. -/
def compactItems : List Json → Except OverlongInteger (List Utf16)
  | [] => .ok []
  | item :: items => do
      let shown ← item.compact
      let later ← compactItems items
      pure (shown :: later)

/-- The fields of an object with their values on one line each. -/
def compactFields : List (Utf16 × Json) → Except OverlongInteger (List (Utf16 × Utf16))
  | [] => .ok []
  | (name, value) :: fields => do
      let shown ← value.compact
      let later ← compactFields fields
      pure ((name, shown) :: later)

end

/-! ## Several lines -/

/-- A line break and the indentation of a depth of nesting. -/
def lineBreak (depth : Nat) : String :=
  String.ofList ('\n' :: List.replicate (4 * depth) ' ')

/-- A part of a written text, or the fault that keeps it from being made. -/
abbrev Chunk := Except OverlongInteger String

/-- What stands on a line of its own in an array or an object, given what is written in front of
it: its parts in order. -/
abbrev Line := String → List Chunk

/-- Lines at a depth of nesting, where a text is in front of the first and a comma in front of every
other one. -/
def lineChunks (depth : Nat) : String → List Line → List Chunk
  | _, [] => []
  | lead, line :: lines => line lead ++ lineChunks depth ("," ++ lineBreak depth) lines

/-- The parts of an array at a depth of nesting. Its bracket is made together with what is in front
of the first item. -/
def arrayChunks (depth : Nat) (items : List Line) : List Chunk :=
  if items.isEmpty then [.ok "[]"]
  else lineChunks (depth + 1) ("[" ++ lineBreak (depth + 1)) items ++
    [.ok (lineBreak depth), .ok "]"]

/-- The parts of an object at a depth of nesting. Its brace is written before the first field. -/
def objectChunks (depth : Nat) (fields : List Line) : List Chunk :=
  if fields.isEmpty then [.ok "\x7b\x7d"]
  else .ok "\x7b" :: .ok (lineBreak (depth + 1)) :: lineChunks (depth + 1) "" fields ++
    [.ok (lineBreak depth), .ok "\x7d"]

/-- A field with the parts of its value. The name is made before anything of the field is
written. -/
def fieldLine (name : Except OverlongInteger Utf16) (value : List Chunk) : Line := fun lead =>
  match name with
  | .ok name => .ok lead :: .ok (asciiString name) :: .ok ": " :: value
  | .error fault => [.error fault]

mutual

/-- The parts of a value at a depth of nesting, over several lines and in ASCII. A value without
items or fields is one part with what is in front of it. -/
def chunks (depth : Nat) : Json → Line
  | null, lead => [.ok (lead ++ "null")]
  | bool value, lead => [.ok (lead ++ truthText value)]
  | number value, lead => [(writeNumber value).map (lead ++ ·)]
  | text value, lead => [.ok (lead ++ asciiString value)]
  | array items, lead => .ok lead :: arrayChunks depth (itemLines (depth + 1) items)
  | object fields, lead => .ok lead :: objectChunks depth (fieldLines (depth + 1) fields)

/-- The items of an array at a depth of nesting. -/
def itemLines (depth : Nat) : List Json → List Line
  | [] => []
  | item :: items => item.chunks depth :: itemLines depth items

/-- The fields of an object at a depth of nesting. -/
def fieldLines (depth : Nat) : List (Utf16 × Json) → List Line
  | [] => []
  | (name, value) :: fields =>
      fieldLine (.ok name) (value.chunks depth "") :: fieldLines depth fields

end

/-- Writes parts one after the other until one cannot be made: the text that has been written then,
and the fault, if there is one. -/
def written : List Chunk → String × Except OverlongInteger Unit
  | [] => ("", .ok ())
  | .ok part :: later =>
      let (behind, outcome) := written later
      (part ++ behind, outcome)
  | .error fault :: _ => ("", .error fault)

end InfixFormula.Json
