import InfixFormula.Json.Token

/-!
# Reading JSON

A JSON text is read token by token. The state (`Reading`) says what may come next and holds the
arrays and objects that are still open, from the inside out. A text is well formed when reading
all of its tokens ends in a finished value.
-/

set_option autoImplicit false

namespace InfixFormula.Json

/-- Why a text cannot be read: it is not well formed, or the first thing wrong with it is an
integer with too many digits. -/
inductive ReadFault where
  | malformed
  | overlongInteger
deriving DecidableEq, Repr

/-- Gives a name a value among fields. A name that is present keeps its place. -/
def putField (name : Utf16) (value : Json) : List (Utf16 × Json) → List (Utf16 × Json)
  | [] => [(name, value)]
  | field :: fields =>
      if field.1 = name then (name, value) :: fields else field :: putField name value fields

/-- A container that waits for a value: an array with its first items in reverse order, or an
object with its first fields and the name of the next one. -/
inductive Frame where
  | item (items : List Json)
  | field (fields : List (Utf16 × Json)) (name : Utf16)

/-- What may come next, with the containers that are open around it. -/
inductive Reading where
  | expectValue (outer : List Frame)
  /-- Just after the bracket of an array. -/
  | firstItem (outer : List Frame)
  /-- After an item of an array. -/
  | afterItem (items : List Json) (outer : List Frame)
  /-- Just after the brace of an object. -/
  | firstName (outer : List Frame)
  /-- After the comma between two fields. -/
  | nextName (fields : List (Utf16 × Json)) (outer : List Frame)
  /-- After the name of a field. -/
  | colon (fields : List (Utf16 × Json)) (name : Utf16) (outer : List Frame)
  /-- After a field of an object. -/
  | afterField (fields : List (Utf16 × Json)) (outer : List Frame)
  | finished (value : Json)

namespace Reading

/-- Hands a finished value to the innermost open container. -/
def complete (value : Json) : List Frame → Reading
  | [] => .finished value
  | .item items :: outer => .afterItem (value :: items) outer
  | .field fields name :: outer => .afterField (putField name value fields) outer

/-- A token where a value may start. -/
def startValue (outer : List Frame) : Token → Except ReadFault Reading
  | .scalar value => .ok (complete value outer)
  | .string value => .ok (complete (.text value) outer)
  | .openArray => .ok (.firstItem outer)
  | .openObject => .ok (.firstName outer)
  | .overlong => .error .overlongInteger
  | _ => .error .malformed

/-- Reads one token. -/
def step : Reading → Token → Except ReadFault Reading
  | .expectValue outer, token => startValue outer token
  | .firstItem outer, .closeArray => .ok (complete (.array []) outer)
  | .firstItem outer, token => startValue (.item [] :: outer) token
  | .afterItem items outer, .comma => .ok (.expectValue (.item items :: outer))
  | .afterItem items outer, .closeArray => .ok (complete (.array items.reverse) outer)
  | .firstName outer, .closeObject => .ok (complete (.object []) outer)
  | .firstName outer, .string name => .ok (.colon [] name outer)
  | .nextName fields outer, .string name => .ok (.colon fields name outer)
  | .colon fields name outer, .colon => .ok (.expectValue (.field fields name :: outer))
  | .afterField fields outer, .comma => .ok (.nextName fields outer)
  | .afterField fields outer, .closeObject => .ok (complete (.object fields) outer)
  | _, _ => .error .malformed

end Reading

/-- The value that a JSON text writes, however deep its arrays and objects are nested. -/
def read (text : String) : Except ReadFault Json := do
  match ← (tokens text.toList).foldlM Reading.step (.expectValue []) with
  | .finished value => pure value
  | _ => throw .malformed

end InfixFormula.Json
