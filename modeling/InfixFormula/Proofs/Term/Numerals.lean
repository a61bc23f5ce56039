import InfixFormula.Proofs.Number.PlainDecimal
import InfixFormula.Proofs.Term.Runs

/-!
# Digits that numerals are read from

The lexer takes a digit of either kind into a numeral, but only a digit with a place value can be
read (`plainChar?_of_isDigit`). So a run of digits and points with at most one point and at least
one digit is a number exactly if all of its digits have a place value (`DigitRun.isNumeral_iff`).
The number is that of the plain decimal which has the same values at the same places
(`DigitRun.exists_plainDecimal`), whatever the scripts of the digits.
-/

set_option autoImplicit false

namespace InfixFormula

namespace Text

/-- A digit with a place value. -/
def HasPlaceValue (c : Char) : Prop :=
  (decimalValue? c).isSome = true

instance (c : Char) : Decidable (HasPlaceValue c) :=
  inferInstanceAs (Decidable ((decimalValue? c).isSome = true))

/-- The ASCII digit for a digit with a place value; any other character stays as it is. -/
def plainDigit (c : Char) : Char :=
  ((decimalValue? c).map Nat.digitChar).getD c

theorem decimalValue?_lt {c : Char} {value : Nat} (found : decimalValue? c = some value) :
    value < 10 := by
  rw [decimalValue?, Option.map_eq_some_iff] at found
  obtain ⟨start, isBlock, rfl⟩ := found
  have within := List.find?_some isBlock
  rw [Bool.and_eq_true, decide_eq_true_eq, decide_eq_true_eq] at within
  omega

theorem isDigit_digitChar {value : Nat} (small : value < 10) :
    (Nat.digitChar value).isDigit = true := by
  interval_cases value <;> rfl

theorem isDigit_plainDigit {c : Char} (decimal : HasPlaceValue c) :
    (plainDigit c).isDigit = true := by
  obtain ⟨value, found⟩ := Option.isSome_iff_exists.mp decimal
  rw [plainDigit, found, Option.map_some, Option.getD_some]
  exact isDigit_digitChar (decimalValue?_lt found)

/-- A digit of ASCII is one of the ten figures. -/
theorem isDigit_of_ascii {c : Char} (digit : isDigit c = true) (ascii : c.toNat < 0x80) :
    c.isDigit = true := by
  have table : ∀ range ∈ digitRanges, range.1 < 0x80 → range = (0x30, 0x39) := by decide
  obtain ⟨range, member, low, high⟩ := exists_of_isDigit digit
  obtain rfl := table range member (Nat.lt_of_le_of_lt low ascii)
  rw [Char.isDigit, Bool.and_eq_true, decide_eq_true_eq, decide_eq_true_eq]
  exact ⟨low, high⟩

end Text

namespace Numeral

open Text

/-! ## Plain characters of digits -/

/-- **A digit stands for the ASCII digit of its place value**, and for nothing without one. -/
theorem plainChar?_of_isDigit {c : Char} (digit : isDigit c = true) :
    plainChar? c = (decimalValue? c).map Nat.digitChar := by
  by_cases ascii : c.toNat < 0x80
  · have table : plainChars.all fun c =>
        c ≠ '.' → (decimalValue? c).map Nat.digitChar = some c := by
      decide +kernel
    have figure := isDigit_of_ascii digit ascii
    have noPoint : c ≠ '.' := by
      rintro rfl
      cases figure
    have known := of_decide_eq_true
      (List.all_eq_true.mp table c (mem_plainChars_of_isDigit figure))
    rw [plainChar?, if_pos ascii, known noPoint]
  · have solid : ¬ isBlank c = true := fun blank => by
      have alone := (Lexer.standsAlone_of_isBlank blank).1
      rw [Lexer.isNumeric, digit] at alone
      cases alone
    rw [plainChar?, if_neg ascii, if_neg solid]

theorem plainChar?_of_hasPlaceValue {c : Char} (digit : isDigit c = true)
    (decimal : HasPlaceValue c) : plainChar? c = some (plainDigit c) := by
  obtain ⟨value, found⟩ := Option.isSome_iff_exists.mp decimal
  rw [plainChar?_of_isDigit digit, plainDigit, found, Option.map_some, Option.getD_some]

/-- A text with a character that stands for no plain one is no numeral. -/
theorem read?_eq_none {text : List Char} {c : Char} (member : c ∈ text)
    (none : plainChar? c = none) : read? (String.ofList text) = Option.none := by
  have noForm : plainForm? text = Option.none := by
    obtain ⟨before, after, rfl⟩ := List.append_of_mem member
    rw [plainForm?, List.mapM_append, List.mapM_cons, none]
    cases before.mapM plainChar? <;> rfl
  rw [read?, String.toList_ofList, noForm]
  rfl

/-- A text is read as its plain form, if that has no freedoms left. -/
theorem read?_of_plainForm {text plain : List Char} (form : plainForm? text = some plain)
    (isPlain : ∀ c ∈ plain, c ∈ plainChars) :
    read? (String.ofList text) = read? (String.ofList plain) := by
  rw [read?, read?, String.toList_ofList, String.toList_ofList, form, plainForm?_of_plain isPlain]

end Numeral

namespace Lexer

open Text Numeral

/-! ## Runs with digits -/

/-- A run of digits and points with at least one digit and at most one point. -/
structure DigitRun (run : List Char) : Prop where
  numeric : NumericRun run
  hasDigit : ∃ c ∈ run, isDigit c = true
  single : run.count '.' ≤ 1

/-- All digits of a text have a place value. -/
def AllDecimal (text : List Char) : Prop :=
  ∀ c ∈ text, isDigit c = true → HasPlaceValue c

instance (text : List Char) : Decidable (AllDecimal text) :=
  List.decidableBAll (fun c => isDigit c = true → HasPlaceValue c) text

/-- What is numeric and no point is a digit. -/
theorem isDigit_of_isNumeric {c : Char} (numeric : isNumeric c = true) (noPoint : c ≠ '.') :
    isDigit c = true := by
  rw [isNumeric, Bool.or_eq_true, decide_eq_true_eq] at numeric
  exact numeric.resolve_right noPoint

section Plain

variable {part : List Char} (numeric : ∀ c ∈ part, isNumeric c = true)
  (decimal : AllDecimal part)
include numeric decimal

/-- Digits with place values, and points, stand for plain characters. -/
theorem plainForm?_of_decimal : plainForm? part = some (part.map plainDigit) := by
  refine plainForm?_eq_map fun c member => ?_
  by_cases point : c = '.'
  · rw [point]
    rfl
  · have digit := isDigit_of_isNumeric (numeric c member) point
    exact plainChar?_of_hasPlaceValue digit (decimal c member digit)

/-- Without a point, digits with place values stand for ASCII digits. -/
theorem all_isDigit_of_decimal (noPoint : '.' ∉ part) :
    (part.map plainDigit).all Char.isDigit = true := by
  rw [List.all_map, List.all_eq_true]
  intro c member
  have other : c ≠ '.' := by
    rintro rfl
    exact noPoint member
  exact isDigit_plainDigit (decimal c member (isDigit_of_isNumeric (numeric c member) other))

end Plain

/-- **A run of digits with place values writes a plain decimal**, with the ASCII digits of the same
values. -/
theorem DigitRun.exists_plainDecimal {run : List Char} (isRun : DigitRun run)
    (decimal : AllDecimal run) :
    ∃ plain : PlainDecimal, plain.chars = run.map plainDigit ∧
      Numeral.read? (String.ofList run) = some plain.value := by
  have form := plainForm?_of_decimal isRun.numeric.2 decimal
  suffices written : ∃ plain : PlainDecimal, plain.chars = run.map plainDigit by
    obtain ⟨plain, same⟩ := written
    refine ⟨plain, same, ?_⟩
    rw [← same] at form
    rw [read?_of_plainForm form fun c => plain.mem_plainChars_of_mem]
    exact plain.read?_text
  obtain ⟨⟨nonempty, numeric⟩, ⟨digit, member, isDigit⟩, single⟩ := isRun
  by_cases point : '.' ∈ run
  · obtain ⟨whole, fraction, rfl, noPoint⟩ := List.eq_append_cons_of_mem point
    have noOther : '.' ∉ fraction := by
      rw [List.count_append, List.count_cons_self] at single
      exact List.count_eq_zero.mp (by omega)
    have front := all_isDigit_of_decimal
      (fun c inFront => numeric c (List.mem_append_left _ inFront))
      (fun c inFront => decimal c (List.mem_append_left _ inFront)) noPoint
    have back := all_isDigit_of_decimal
      (fun c behind => numeric c (List.mem_append_right _ (List.mem_cons_of_mem _ behind)))
      (fun c behind => decimal c (List.mem_append_right _ (List.mem_cons_of_mem _ behind))) noOther
    have written : whole.map plainDigit ++ fraction.map plainDigit ≠ [] := by
      rw [← List.map_append, ne_eq, List.map_eq_nil_iff, List.append_eq_nil_iff]
      rintro ⟨rfl, rfl⟩
      rw [List.mem_singleton.mp member] at isDigit
      cases isDigit
    refine ⟨⟨whole.map plainDigit, some (fraction.map plainDigit), ?_, written⟩, ?_⟩
    · rw [Option.getD_some, List.all_append, front, back, Bool.and_self]
    · rw [List.map_append, List.map_cons]
      rfl
  · have all := all_isDigit_of_decimal numeric decimal point
    refine ⟨⟨run.map plainDigit, none, ?_, ?_⟩, rfl⟩
    · rw [Option.getD_none, List.append_nil, all]
    · rw [Option.getD_none, List.append_nil, ne_eq, List.map_eq_nil_iff]
      exact nonempty

/-- **A run of digits is a number exactly if all of its digits have a place value.** -/
theorem DigitRun.isNumeral_iff {run : List Char} (isRun : DigitRun run) :
    Term.isNumeral (String.ofList run) = true ↔ AllDecimal run := by
  constructor
  · intro numeral c member digit
    by_contra other
    have noPlain : plainChar? c = none := by
      rw [plainChar?_of_isDigit digit, Option.map_eq_none_iff]
      exact Option.not_isSome_iff_eq_none.mp other
    rw [Term.isNumeral, read?_eq_none member noPlain] at numeral
    cases numeral
  · intro decimal
    obtain ⟨plain, _, read⟩ := isRun.exists_plainDecimal decimal
    rw [Term.isNumeral, read]
    rfl

end Lexer

end InfixFormula
