import InfixFormula.Number.Binary64
import InfixFormula.Text.Blank
import InfixFormula.Text.Digit

/-!
# Numerals

A numeral is a text that can be read as a binary64 number. Its plain form is a decimal with an
optional sign, point and exponent, or one of the words for infinity and for the value that is
not a number, in letters of any case. Around it blanks may stand, single underscores may group
its digits, and a decimal digit of any script stands for the digit of its value.

Reading goes through these freedoms one after the other (`plainForm?`, `trimmed`, `ungrouped?`)
and then reads the plain form (`signed?`).
-/

set_option autoImplicit false

namespace InfixFormula.Numeral

open InfixFormula.Text

/-! ## Freedoms of the written form -/

/-- The plain character that a character of a numeral stands for: every blank outside ASCII
stands for a space and every decimal digit for the digit of its value. -/
def plainChar? (c : Char) : Option Char :=
  if c.toNat < 0x80 then some c
  else if isBlank c then some ' '
  else (decimalValue? c).map Nat.digitChar

/-- The text in plain characters, if each of its characters stands for one. -/
def plainForm? (text : List Char) : Option (List Char) :=
  text.mapM plainChar?

/-- Whether a plain character may stand around a numeral. -/
def isPadding (c : Char) : Bool :=
  c = ' ' || ('\t' ≤ c && c ≤ '\r')

/-- The text without the padding on both sides. -/
def trimmed (text : List Char) : List Char :=
  ((text.dropWhile isPadding).reverse.dropWhile isPadding).reverse

/-- The text without the underscores, each of which has to stand between two digits; `grouping`
says whether the character before the text is a digit. -/
def ungrouped? (grouping : Bool) : List Char → Option (List Char)
  | [] => some []
  | c :: rest =>
      if c = '_' then
        if grouping && rest.head?.any Char.isDigit then ungrouped? false rest else none
      else (ungrouped? c.isDigit rest).map (c :: ·)

/-! ## The plain form -/

/-- The number that decimal digits write. -/
def ofDigits (digits : List Char) : Nat :=
  digits.foldl (fun number c => 10 * number + (c.toNat - '0'.toNat)) 0

/-- A sign and what follows it; without a sign the number is positive. -/
def splitSign : List Char → Bool × List Char
  | '-' :: rest => (true, rest)
  | '+' :: rest => (false, rest)
  | rest => (false, rest)

/-- The exponent that follows the digits: nothing, or a mark, an optional sign and digits. -/
def exponent? : List Char → Option Int
  | [] => some 0
  | mark :: rest =>
      let (negative, digits) := splitSign rest
      if (mark = 'e' ∨ mark = 'E') ∧ digits ≠ [] ∧ digits.all Char.isDigit then
        some (if negative then -(ofDigits digits : Int) else ofDigits digits)
      else none

/-- Whole digits, perhaps a point and more digits, at least one digit in all, and perhaps an
exponent. -/
def decimal? (text : List Char) : Option Binary64 :=
  let whole := text.takeWhile Char.isDigit
  let afterWhole := text.dropWhile Char.isDigit
  let (fraction, afterDigits) := match afterWhole with
    | '.' :: rest => (rest.takeWhile Char.isDigit, rest.dropWhile Char.isDigit)
    | rest => ([], rest)
  if whole = [] ∧ fraction = [] then none
  else (exponent? afterDigits).map fun exponent =>
    Binary64.ofDecimal (ofDigits (whole ++ fraction)) (exponent - fraction.length)

/-- A numeral without a sign. -/
def unsigned? (text : List Char) : Option Binary64 :=
  let word := String.ofList (text.map Char.toLower)
  if word = "inf" ∨ word = "infinity" then some Binary64.infinity
  else if word = "nan" then some (.notANumber .positive)
  else decimal? text

/-- A numeral with an optional sign, which a value that is not a number takes as well. -/
def signed? (text : List Char) : Option Binary64 :=
  let (negative, magnitude) := splitSign text
  (unsigned? magnitude).map fun x => if negative then -x else x

/-- The number that a text writes, if it is a numeral. -/
def read? (text : String) : Option Binary64 := do
  let plain ← plainForm? text.toList
  let digits ← ungrouped? false (trimmed plain)
  signed? digits

end InfixFormula.Numeral
