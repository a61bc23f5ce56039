import InfixFormula.Text.Hexadecimal
import InfixFormula.Text.Printable
import InfixFormula.Text.Utf16

/-!
# Quoted text

Messages show a term between quotation marks, so that blanks and invisible characters can be
told apart. Apostrophes enclose the text, or double marks when the text has an apostrophe and
no double mark. Inside, the mark and the backslash are preceded by a backslash, and a character
that does not print is written as an escape sequence of the least of three widths that holds
its code point. A surrogate that stands alone never prints.
-/

set_option autoImplicit false

namespace InfixFormula.Text

/-- The mark that encloses a text: the apostrophe, unless only the double mark is free. -/
def quotationMark (text : List CodePoint) : Char :=
  if .character '\x27' ∈ text ∧ .character '\x22' ∉ text then '\x22' else '\x27'

/-- The escape sequence of a character that does not print. -/
def escapeSequence (c : Char) : List Char :=
  if c = '\t' then ['\\', 't']
  else if c = '\n' then ['\\', 'n']
  else if c = '\r' then ['\\', 'r']
  else if c.toNat < 0x100 then '\\' :: 'x' :: hexadecimal 2 c.toNat
  else if c.toNat < 0x10000 then '\\' :: 'u' :: hexadecimal 4 c.toNat
  else '\\' :: 'U' :: hexadecimal 8 c.toNat

/-- How a character stands in a text enclosed by a mark. -/
def quotedChar (mark c : Char) : List Char :=
  if c = mark ∨ c = '\\' then ['\\', c]
  else if isPrintable c then [c]
  else escapeSequence c

/-- How a code point stands in a text enclosed by a mark. -/
def quotedCodePoint (mark : Char) : CodePoint → List Char
  | .character c => quotedChar mark c
  | .surrogate unit => '\\' :: 'u' :: hexadecimal 4 unit.toNat

/-- Code points between quotation marks. -/
def quotedCodePoints (text : List CodePoint) : String :=
  let mark := quotationMark text
  String.ofList (mark :: text.flatMap (quotedCodePoint mark) ++ [mark])

/-- A text between quotation marks. -/
def quoted (text : String) : String :=
  quotedCodePoints (text.toList.map .character)

end InfixFormula.Text
