import InfixFormula.Number.Numeral
import Mathlib.Data.List.TakeWhile
import Mathlib.Tactic.IntervalCases

/-!
# Plain decimals

A plain decimal is a numeral of ASCII digits and at most one point. None of the freedoms of the
written form applies to it, so it is read as what its digits say (`PlainDecimal.read?_text`): the
binary64 number nearest to the integer of all digits, scaled by the number of digits behind the
point.
-/

set_option autoImplicit false

namespace InfixFormula

/-- A numeral of ASCII digits, at least one, and perhaps a point with the digits behind it. -/
structure PlainDecimal where
  whole : List Char
  fraction : Option (List Char)
  allDigits : (whole ++ fraction.getD []).all Char.isDigit = true
  nonempty : whole ++ fraction.getD [] ≠ []

namespace PlainDecimal

/-- The digits before and behind the point. -/
def digits (decimal : PlainDecimal) : List Char :=
  decimal.whole ++ decimal.fraction.getD []

/-- The characters as they are written. -/
def chars (decimal : PlainDecimal) : List Char :=
  match decimal.fraction with
  | none => decimal.whole
  | some fraction => decimal.whole ++ '.' :: fraction

/-- The numeral as a text. -/
def text (decimal : PlainDecimal) : String :=
  String.ofList decimal.chars

/-- The binary64 number nearest to what the numeral writes. -/
def value (decimal : PlainDecimal) : Binary64 :=
  Binary64.ofDecimal (Numeral.ofDigits decimal.digits) (-((decimal.fraction.getD []).length : Int))

end PlainDecimal

namespace Numeral

/-! ## Plain characters -/

/-- The characters of plain decimals. -/
def plainChars : List Char :=
  ['.', '0', '1', '2', '3', '4', '5', '6', '7', '8', '9']

theorem mem_plainChars_of_isDigit {c : Char} (isDigit : c.isDigit = true) : c ∈ plainChars := by
  rw [Char.isDigit, Bool.and_eq_true, decide_eq_true_eq, decide_eq_true_eq] at isDigit
  have low : 48 ≤ c.toNat := isDigit.1
  have high : c.toNat ≤ 57 := isDigit.2
  rw [← Char.ofNat_toNat c]
  interval_cases c.toNat <;> decide

/-- A plain character stands for itself, in lower case as well, and is no padding. -/
theorem plainChars_spec {c : Char} (plain : c ∈ plainChars) :
    plainChar? c = some c ∧ isPadding c = false ∧ c.toLower = c := by
  have table : plainChars.all fun c =>
      plainChar? c = some c ∧ isPadding c = false ∧ c.toLower = c := by
    decide +kernel
  exact of_decide_eq_true (List.all_eq_true.mp table c plain)

/-! ## Texts of plain characters -/

/-- A text is plain if each of its characters stands for a plain one. -/
theorem plainForm?_eq_map {shape : Char → Char} {text : List Char}
    (each : ∀ c ∈ text, plainChar? c = some (shape c)) :
    plainForm? text = some (text.map shape) := by
  induction text with
  | nil => rfl
  | cons c rest ih =>
      have later := ih fun other member => each other (List.mem_cons_of_mem c member)
      rw [plainForm?] at later ⊢
      rw [List.mapM_cons, each c List.mem_cons_self, later]
      rfl

section Plain

variable {text : List Char} (plain : ∀ c ∈ text, c ∈ plainChars)
include plain

theorem plainForm?_of_plain : plainForm? text = some text :=
  (plainForm?_eq_map fun c member => (plainChars_spec (plain c member)).1).trans
    (congrArg some (List.map_id text))

/-- There is no padding to drop in front. -/
theorem dropWhile_isPadding_of_plain : text.dropWhile isPadding = text := by
  cases text with
  | nil => rfl
  | cons c rest =>
      have solid := (plainChars_spec (plain c List.mem_cons_self)).2.1
      rw [List.dropWhile_cons_of_neg (Bool.eq_false_iff.mp solid)]

theorem trimmed_of_plain : trimmed text = text := by
  have reversed : ∀ c ∈ text.reverse, c ∈ plainChars :=
    fun c member => plain c (List.mem_reverse.mp member)
  rw [trimmed, dropWhile_isPadding_of_plain plain, dropWhile_isPadding_of_plain reversed,
    List.reverse_reverse]

theorem ungrouped?_of_plain (grouping : Bool) : ungrouped? grouping text = some text := by
  induction text generalizing grouping with
  | nil => rfl
  | cons c rest ih =>
      have solid : c ≠ '_' := by
        rintro rfl
        exact absurd (plain _ List.mem_cons_self) (by decide)
      rw [ungrouped?, if_neg solid,
        ih fun other member => plain other (List.mem_cons_of_mem c member)]
      rfl

theorem splitSign_of_plain : splitSign text = (false, text) := by
  cases text with
  | nil => rfl
  | cons c rest =>
      have unsigned := plain c List.mem_cons_self
      rw [splitSign]
      · rintro _ ⟨⟩
        exact absurd unsigned (by decide)
      · rintro _ ⟨⟩
        exact absurd unsigned (by decide)

/-- A text of plain characters is no word. -/
theorem unsigned?_of_plain : unsigned? text = decimal? text := by
  have small : text.map Char.toLower = text :=
    (List.map_congr_left fun c member => (plainChars_spec (plain c member)).2.2).trans
      (List.map_id text)
  have noWord {word : String} (letter : Char) (named : letter ∈ word.toList)
      (odd : letter ∉ plainChars) : String.ofList text ≠ word := by
    rintro rfl
    rw [String.toList_ofList] at named
    exact odd (plain letter named)
  rw [unsigned?, small, if_neg, if_neg (noWord 'n' (by decide) (by decide))]
  exact not_or.mpr ⟨noWord 'i' (by decide) (by decide), noWord 'i' (by decide) (by decide)⟩

/-- **A text of plain characters is read as a decimal.** -/
theorem read?_of_plain : read? (String.ofList text) = decimal? text := by
  rw [read?, String.toList_ofList, plainForm?_of_plain plain]
  simp only [Option.bind_eq_bind, Option.bind_some, trimmed_of_plain plain,
    ungrouped?_of_plain plain, signed?, splitSign_of_plain plain, unsigned?_of_plain plain,
    Bool.false_eq_true, if_false, Option.map_id']

end Plain

/-! ## Decimals -/

variable {whole fraction : List Char} (digits : ∀ c ∈ whole, c.isDigit = true)
include digits

theorem decimal?_whole (nonempty : whole ≠ []) :
    decimal? whole = some (.ofDecimal (ofDigits whole) 0) := by
  have allDigits : whole.takeWhile Char.isDigit = whole := List.takeWhile_eq_self_iff.mpr digits
  have noRest : whole.dropWhile Char.isDigit = [] := List.dropWhile_eq_nil_iff.mpr digits
  simp only [decimal?, allDigits, noRest, nonempty, false_and, if_false, List.append_nil, exponent?]
  rfl

theorem decimal?_point (behind : ∀ c ∈ fraction, c.isDigit = true)
    (nonempty : whole ++ fraction ≠ []) :
    decimal? (whole ++ '.' :: fraction) =
      some (.ofDecimal (ofDigits (whole ++ fraction)) (-(fraction.length : Int))) := by
  have point : ¬ Char.isDigit '.' = true := by decide
  have front : (whole ++ '.' :: fraction).takeWhile Char.isDigit = whole := by
    rw [List.takeWhile_append_of_pos digits, List.takeWhile_cons_of_neg point, List.append_nil]
  have rest : (whole ++ '.' :: fraction).dropWhile Char.isDigit = '.' :: fraction := by
    rw [List.dropWhile_append_of_pos digits, List.dropWhile_cons_of_neg point]
  have allDigits : fraction.takeWhile Char.isDigit = fraction :=
    List.takeWhile_eq_self_iff.mpr behind
  have noRest : fraction.dropWhile Char.isDigit = [] := List.dropWhile_eq_nil_iff.mpr behind
  have notEmpty : ¬ (whole = [] ∧ fraction = []) := by
    rintro ⟨rfl, rfl⟩
    exact nonempty rfl
  simp only [decimal?, front, rest, allDigits, noRest, notEmpty, if_false, exponent?]
  simp only [Option.map_some, Int.zero_sub]

end Numeral

namespace PlainDecimal

variable (decimal : PlainDecimal)

theorem isDigit_of_mem {c : Char} (member : c ∈ decimal.whole ++ decimal.fraction.getD []) :
    c.isDigit = true :=
  List.all_eq_true.mp decimal.allDigits c member

theorem mem_plainChars_of_mem {c : Char} (member : c ∈ decimal.chars) :
    c ∈ Numeral.plainChars := by
  have isDigit := @decimal.isDigit_of_mem c
  rw [chars] at member
  split at member
  case h_1 noPoint =>
    exact Numeral.mem_plainChars_of_isDigit (isDigit (List.mem_append_left _ member))
  case h_2 fraction point =>
    rw [point] at isDigit
    rcases List.mem_append.mp member with member | member
    · exact Numeral.mem_plainChars_of_isDigit (isDigit (List.mem_append_left _ member))
    rcases List.mem_cons.mp member with rfl | member
    · decide
    · exact Numeral.mem_plainChars_of_isDigit (isDigit (List.mem_append_right _ member))

theorem chars_ne_nil : decimal.chars ≠ [] := by
  have nonempty := decimal.nonempty
  rw [chars]
  split
  case h_1 noPoint => rwa [noPoint, Option.getD_none, List.append_nil] at nonempty
  case h_2 => exact List.append_ne_nil_of_right_ne_nil _ (List.cons_ne_nil _ _)

/-- **A plain decimal is read as what its digits say.** -/
theorem read?_text : Numeral.read? decimal.text = some decimal.value := by
  rw [text, Numeral.read?_of_plain fun c => decimal.mem_plainChars_of_mem]
  obtain ⟨whole, fraction, allDigits, nonempty⟩ := decimal
  rw [List.all_eq_true] at allDigits
  have front : ∀ c ∈ whole, c.isDigit = true :=
    fun c member => allDigits c (List.mem_append_left _ member)
  cases fraction with
  | none =>
      rw [Option.getD_none, List.append_nil] at nonempty
      simp only [chars, Numeral.decimal?_whole front nonempty, value, digits, Option.getD_none,
        List.append_nil, List.length_nil]
      rfl
  | some fraction =>
      exact Numeral.decimal?_point front
        (fun c member => allDigits c (List.mem_append_right _ member)) nonempty

end PlainDecimal

end InfixFormula
