import InfixFormula.Json.Basic
import InfixFormula.Number.Numeral

/-!
# JSON tokens

The tokens of a JSON text: punctuation, strings and words. A word is a longest run of characters
of no other kind, and it has to be a constant or a number. The text is scanned from left to
right by a small machine (`Scan.step`) that holds the unfinished token.

A fault is a token as well (`invalid`, `overlong`). So a reader meets the faults of a text in
their order, and a fault behind the place where reading stops is never noticed.
-/

set_option autoImplicit false

namespace InfixFormula.Json

/-- A token of JSON. -/
inductive Token where
  | openArray
  | closeArray
  | openObject
  | closeObject
  | comma
  | colon
  | scalar (value : Json)
  | string (value : Utf16)
  /-- An integer with more digits than are read. -/
  | overlong
  /-- Characters that form no token. -/
  | invalid

/-! ## Words -/

/-- The digits behind a point, and the rest; nothing if the text does not start with a point and
a digit. -/
def fractionPart? : List Char → Option (List Char × List Char)
  | '.' :: rest =>
      let digits := rest.takeWhile Char.isDigit
      if digits = [] then none else some (digits, rest.dropWhile Char.isDigit)
  | _ => none

/-- The exponent at the start of a text, and the rest. -/
def exponentPart? : List Char → Option (Int × List Char)
  | mark :: rest =>
      let (negative, afterSign) := Numeral.splitSign rest
      let digits := afterSign.takeWhile Char.isDigit
      if (mark = 'e' ∨ mark = 'E') ∧ digits ≠ [] then
        let power : Int := Numeral.ofDigits digits
        some (if negative then -power else power, afterSign.dropWhile Char.isDigit)
      else none
  | [] => none

/-- The whole digits at the start of a text: a zero alone, or digits without a leading zero. -/
def wholePart (text : List Char) : List Char :=
  let digits := text.takeWhile Char.isDigit
  if digits.head? = some '0' then ['0'] else digits

/-- The tokens of a number behind its sign, followed by a fault if characters are left over. -/
def magnitudeTokens (negative : Bool) (magnitude : List Char) : List Token :=
  let whole := wholePart magnitude
  let afterWhole := magnitude.drop whole.length
  let fraction := fractionPart? afterWhole
  let afterFraction := (fraction.map Prod.snd).getD afterWhole
  let exponent := exponentPart? afterFraction
  let rest := (exponent.map Prod.snd).getD afterFraction
  let value : Token :=
    if fraction.isNone && exponent.isNone then
      let size : Int := Numeral.ofDigits whole
      if integerDigitLimit < whole.length then .overlong
      else .scalar (.number (.integer (if negative then -size else size)))
    else
      let digits := (fraction.map Prod.fst).getD []
      let power := (exponent.map Prod.fst).getD 0
      let size := Binary64.ofDecimal (Numeral.ofDigits (whole ++ digits)) (power - digits.length)
      .scalar (.number (.real (if negative then -size else size)))
  if whole = [] then [.invalid]
  else if rest = [] then [value]
  else [value, .invalid]

/-- The tokens of a word that is no constant. -/
def numberTokens : List Char → List Token
  | '-' :: magnitude => magnitudeTokens true magnitude
  | magnitude => magnitudeTokens false magnitude

/-- The tokens of a word. -/
def wordTokens (word : List Char) : List Token :=
  match String.ofList word with
  | "null" => [.scalar .null]
  | "true" => [.scalar (.bool true)]
  | "false" => [.scalar (.bool false)]
  | "NaN" => [.scalar (.number (.real (.notANumber .positive)))]
  | "Infinity" => [.scalar (.number (.real Binary64.infinity))]
  | "-Infinity" => [.scalar (.number (.real (-Binary64.infinity)))]
  | _ => numberTokens word

/-! ## Strings -/

/-- The character that a backslash and a letter stand for. -/
def escaped? : Char → Option Char
  | '\x22' => some '\x22'
  | '\\' => some '\\'
  | '/' => some '/'
  | 'b' => some '\x08'
  | 'f' => some '\x0c'
  | 'n' => some '\n'
  | 'r' => some '\r'
  | 't' => some '\t'
  | _ => none

/-! ## Scanning -/

/-- What is unfinished at a place of the text. Characters and units already read are in reverse
order. -/
inductive Unfinished where
  | nothing
  | word (read : List Char)
  | string (read : List UInt16)
  /-- A string just after a backslash. -/
  | escape (read : List UInt16)
  /-- A string with the first hexadecimal digits of a unit. -/
  | unit (read : List UInt16) (digits : List Char)

/-- The state of a scan: the finished tokens in reverse order, and what is unfinished. -/
structure Scan where
  tokens : List Token
  unfinished : Unfinished

namespace Scan

/-- Adds finished tokens. -/
def emit (scan : Scan) (tokens : List Token) : Scan :=
  ⟨tokens.reverse ++ scan.tokens, .nothing⟩

/-- Whether a character only separates tokens. -/
def isSpace (c : Char) : Bool :=
  c = ' ' || c = '\t' || c = '\n' || c = '\r'

/-- The punctuation token of a character. -/
def punctuation? : Char → Option Token
  | '[' => some .openArray
  | ']' => some .closeArray
  | '\x7b' => some .openObject
  | '\x7d' => some .closeObject
  | ',' => some .comma
  | ':' => some .colon
  | _ => none

/-- A character where no string is unfinished. -/
def between (scan : Scan) (read : List Char) (c : Char) : Scan :=
  let finished := if read = [] then scan else scan.emit (wordTokens read.reverse)
  if isSpace c then finished.emit []
  else if c = '\x22' then ⟨finished.tokens, .string []⟩
  else match punctuation? c with
    | some token => finished.emit [token]
    | none => ⟨scan.tokens, .word (c :: read)⟩

/-- One character of the text. -/
def step (scan : Scan) (c : Char) : Scan :=
  match scan.unfinished with
  | .nothing => scan.between [] c
  | .word read => scan.between read c
  | .string read =>
      if c = '\x22' then scan.emit [.string ⟨read.reverse⟩]
      else if c = '\\' then ⟨scan.tokens, .escape read⟩
      else if c.toNat < 0x20 then scan.emit [.invalid]
      else ⟨scan.tokens, .string ((CodePoint.unitsOfChar c).reverse ++ read)⟩
  | .escape read =>
      if c = 'u' then ⟨scan.tokens, .unit read []⟩
      else match escaped? c with
        | some character => ⟨scan.tokens, .string (character.toNat.toUInt16 :: read)⟩
        | none => scan.emit [.invalid]
  | .unit read digits =>
      if digits.length < 3 then ⟨scan.tokens, .unit read (c :: digits)⟩
      else match Text.ofHexadecimal? (c :: digits).reverse with
        | some value => ⟨scan.tokens, .string (value.toUInt16 :: read)⟩
        | none => scan.emit [.invalid]

/-- The tokens at the end of the text. -/
def finish (scan : Scan) : List Token :=
  match scan.unfinished with
  | .nothing => scan.tokens.reverse
  | .word read => (scan.emit (wordTokens read.reverse)).tokens.reverse
  | _ => (scan.emit [.invalid]).tokens.reverse

end Scan

/-- The tokens of a text. -/
def tokens (text : List Char) : List Token :=
  (text.foldl Scan.step ⟨[], .nothing⟩).finish

end InfixFormula.Json
