/-!
# Text in UTF-16

A string of JSON is a sequence of 16-bit units, because an escape sequence writes one unit. A
character of the first 65536 is one unit. Every other character is a pair of surrogates, a high
one directly before a low one. A surrogate in no such pair belongs to no character, so a sequence
of units need not be a `String`; what it consists of are code points (`Utf16.codePoints`).
-/

set_option autoImplicit false

namespace InfixFormula

/-- A code point of a text: a character, or a surrogate that stands alone. -/
inductive CodePoint where
  | character (c : Char)
  | surrogate (unit : UInt16)
deriving DecidableEq, Repr

/-- A text as a sequence of 16-bit units. -/
structure Utf16 where
  units : List UInt16
deriving DecidableEq, Repr

namespace CodePoint

/-- The number of a code point. -/
def toNat : CodePoint → Nat
  | character c => c.toNat
  | surrogate unit => unit.toNat

/-- The units of a character. -/
def unitsOfChar (c : Char) : List UInt16 :=
  if c.toNat < 0x10000 then [c.toNat.toUInt16]
  else
    let offset := c.toNat - 0x10000
    [(0xd800 + offset / 0x400).toUInt16, (0xdc00 + offset % 0x400).toUInt16]

/-- The units of a code point. -/
def units : CodePoint → List UInt16
  | character c => unitsOfChar c
  | surrogate unit => [unit]

/-- The code point of a unit in no pair. -/
def ofUnit (unit : UInt16) : CodePoint :=
  if unit.toNat.isValidChar then character (Char.ofNat unit.toNat) else surrogate unit

/-- The character of a pair of units, if the first is a high surrogate and the second a low
one. -/
def ofPair? (high low : UInt16) : Option CodePoint :=
  if 0xd800 ≤ high ∧ high < 0xdc00 ∧ 0xdc00 ≤ low ∧ low < 0xe000 then
    some (character
      (Char.ofNat (0x10000 + (high.toNat - 0xd800) * 0x400 + (low.toNat - 0xdc00))))
  else none

/-- The code points of a sequence of units. -/
def ofUnits : List UInt16 → List CodePoint
  | [] => []
  | [unit] => [ofUnit unit]
  | unit :: next :: rest => match ofPair? unit next with
      | some point => point :: ofUnits rest
      | none => ofUnit unit :: ofUnits (next :: rest)

end CodePoint

namespace Utf16

/-- The units of a string. -/
def ofString (text : String) : Utf16 :=
  ⟨text.toList.flatMap CodePoint.unitsOfChar⟩

instance : Coe String Utf16 := ⟨ofString⟩

instance : Append Utf16 := ⟨fun first second => ⟨first.units ++ second.units⟩⟩

/-- The text of one code point. -/
def ofCodePoint (point : CodePoint) : Utf16 :=
  ⟨point.units⟩

/-- The code points of a text. -/
def codePoints (text : Utf16) : List CodePoint :=
  CodePoint.ofUnits text.units

/-- Whether a text has no units. -/
def isEmpty (text : Utf16) : Bool :=
  text.units.isEmpty

/-- Texts one after the other with a text between each and the next. -/
def intercalate (separator : Utf16) (texts : List Utf16) : Utf16 :=
  ⟨List.intercalate separator.units (texts.map units)⟩

/-- Whether a text stands before another one, or is the same, in the order of code points. -/
def precedes (text other : Utf16) : Bool :=
  !(other.codePoints.map CodePoint.toNat).lex (text.codePoints.map CodePoint.toNat) Nat.blt

end Utf16

end InfixFormula
