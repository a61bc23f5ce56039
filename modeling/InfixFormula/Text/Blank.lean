import InfixFormula.Text.CodeRange

/-!
# Blanks

A blank separates terms and carries no meaning: the space separators of Unicode, the line and
paragraph separators, and the control characters that separate text (tab to carriage return,
the four information separators, and next line).
-/

set_option autoImplicit false

namespace InfixFormula.Text

/-- The ranges of the blank characters. -/
def blanks : List (Nat × Nat) :=
  [(0x9, 0xd), (0x1c, 0x20), (0x85, 0x85), (0xa0, 0xa0), (0x1680, 0x1680), (0x2000, 0x200a),
    (0x2028, 0x2029), (0x202f, 0x202f), (0x205f, 0x205f), (0x3000, 0x3000)]

/-- Whether a character is blank. -/
def isBlank (c : Char) : Bool :=
  inRanges blanks c.toNat

end InfixFormula.Text
