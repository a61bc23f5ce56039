/-!
# Hexadecimal numbers

Escape sequences name a character by its code point, in lower-case hexadecimal of a fixed
width. Reading takes digits of either case.
-/

set_option autoImplicit false

namespace InfixFormula.Text

/-- A number in lower-case hexadecimal, filled up with zeros on the left to a least width. -/
def hexadecimal (width number : Nat) : List Char :=
  (Nat.toDigits 16 number).leftpad width '0'

/-- The value of a hexadecimal digit of either case. -/
def hexDigit? (c : Char) : Option Nat :=
  if '0' ≤ c ∧ c ≤ '9' then some (c.toNat - '0'.toNat)
  else if 'a' ≤ c ∧ c ≤ 'f' then some (c.toNat - 'a'.toNat + 10)
  else if 'A' ≤ c ∧ c ≤ 'F' then some (c.toNat - 'A'.toNat + 10)
  else none

/-- The number that a sequence of hexadecimal digits writes. -/
def ofHexadecimal? (digits : List Char) : Option Nat :=
  digits.foldlM (fun number c => (hexDigit? c).map (16 * number + ·)) 0

end InfixFormula.Text
