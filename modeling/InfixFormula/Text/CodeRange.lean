/-!
# Ranges of code points

A character property is held as an ascending list of closed ranges of code points. Looking a
character up (`inRanges`) stops at the first range that ends at or after it, so the early
entries of a table, where most text lies, are found at once.
-/

set_option autoImplicit false

namespace InfixFormula.Text

/-- Whether a code point lies in one of the ascending, disjoint ranges of a table. -/
def inRanges : List (Nat × Nat) → Nat → Bool
  | [], _ => false
  | (first, last) :: later, point =>
      if point ≤ last then first ≤ point else inRanges later point

end InfixFormula.Text
