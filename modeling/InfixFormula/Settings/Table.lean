import InfixFormula.Json.Reader
import InfixFormula.Json.Writer

/-!
# Tables of settings

Settings come as a JSON value that is laid over a table of names and values (`Table.overlay`).
An object is the usual form. A list of pairs serves as well, and then a name need not be a text:
it may be any value without parts. Two such names are the same when they are equal as values, so
that `1`, `1.0` and `true` are one name; the first spelling of a name stays.
-/

set_option autoImplicit false

namespace InfixFormula

/-- A name in a table of settings: a value without parts. -/
inductive SettingName where
  | null
  | bool (value : Bool)
  | number (value : Number)
  | text (value : Utf16)
deriving DecidableEq

namespace SettingName

/-- The number that a name equals, if any: a truth value equals one or zero. -/
def number? : SettingName → Option Number
  | bool value => some (.integer (if value then 1 else 0))
  | number value => some value
  | _ => none

/-- Whether two names are the same. -/
def same (name other : SettingName) : Bool :=
  match name, other with
  | null, null => true
  | text a, text b => a == b
  | a, b => match a.number?, b.number? with
      | some x, some y => x.equals y
      | _, _ => false

/-- A value as a name; arrays and objects are none. -/
def ofJson? : Json → Option SettingName
  | .null => some null
  | .bool value => some (bool value)
  | .number value => some (number value)
  | .text value => some (text value)
  | .array _ | .object _ => none

/-- A name as the name of a JSON field, unless it is an integer with too many digits. -/
def fieldName : SettingName → Except OverlongInteger Utf16
  | null => .ok "null"
  | bool value => .ok (Json.truthText value)
  | number value => (Json.writeNumber value).map fun text => text
  | text value => .ok value

end SettingName

/-- Names with values, in the order in which the names first appeared. -/
abbrev SettingTable := List (SettingName × Json)

/-- Why a JSON value cannot be laid over a table. -/
inductive OverlayFault where
  /-- The value, or an item of it, has no parts at all. -/
  | notEntries
  /-- An item has not exactly two parts. -/
  | notPair
  /-- The name of a pair is an array or an object. -/
  | compoundName
deriving DecidableEq, Repr

namespace SettingTable

/-- Gives a name a value. A name that is present keeps its place and its spelling. -/
def put (name : SettingName) (value : Json) : SettingTable → SettingTable
  | [] => [(name, value)]
  | entry :: entries =>
      if entry.1.same name then (entry.1, value) :: entries else entry :: put name value entries

/-- The value of a textual name. -/
def get? (table : SettingTable) (name : String) : Option Json :=
  (table.find? fun entry => entry.1.same (.text name)).map Prod.snd

/-- The two parts of an item: of an array its items, of a text its code points, of an object the
names of its fields. -/
def pair? : Json → Except OverlayFault (Json × Json)
  | .array [name, value] => .ok (name, value)
  | .array _ => .error .notPair
  | .text value => match value.codePoints with
      | [name, value] => .ok (.text (.ofCodePoint name), .text (.ofCodePoint value))
      | _ => .error .notPair
  | .object [(name, _), (value, _)] => .ok (.text name, .text value)
  | .object _ => .error .notPair
  | _ => .error .notEntries

/-- Lays one item over a table. -/
def putItem (table : SettingTable) (item : Json) : Except OverlayFault SettingTable := do
  let (name, value) ← pair? item
  match SettingName.ofJson? name with
  | some name => pure (table.put name value)
  | none => throw .compoundName

/-- Lays a JSON value over a table: the fields of an object, or the pairs in an array. A text is
a sequence of code points, which are no pairs, so only the empty one is possible. -/
def overlay (table : SettingTable) : Json → Except OverlayFault SettingTable
  | .object fields =>
      .ok (fields.foldl (fun table field => table.put (.text field.1) field.2) table)
  | .array items => items.foldlM putItem table
  | .text value => if value.isEmpty then .ok table else .error .notPair
  | _ => .error .notEntries

/-- The parts of the table as a JSON object over several lines. -/
def chunks (table : SettingTable) : List Json.Chunk :=
  Json.objectChunks 0 (table.map fun entry =>
    Json.fieldLine entry.1.fieldName (entry.2.chunks 1 ""))

/-- An entry with a text as its name, as the field of an object. -/
def field? (entry : SettingName × Json) : Option (Utf16 × Json) :=
  match entry.1 with
  | .text name => some (name, entry.2)
  | _ => none

/-- The entries with a text as their name, as the fields of an object. -/
def fields (table : SettingTable) : List (Utf16 × Json) :=
  table.filterMap field?

end SettingTable

end InfixFormula
