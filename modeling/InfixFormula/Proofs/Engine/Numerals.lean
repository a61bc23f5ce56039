import InfixFormula.Proofs.Engine.Parsing
import InfixFormula.Proofs.Engine.Reading
import InfixFormula.Proofs.Term.Numerals
import InfixFormula.Proofs.Term.Products

/-!
# Numbers in a text

One would expect a run of digits and points that has a digit to be a number wherever the engine asks
for one. It is if all of its digits have a place value: the validation knows it, it is built into
the number that the plain decimal with the same values writes, and products are put in next to it
(`IsNumber`). But the lexer takes more characters into such a run. With a digit that has no place
value, such as a superscript, the term of the run is nothing to the engine (`IsUnknown`), and so the
text cannot be built. A text has such a run exactly if it has such a digit (`numerals_of_terms`).
-/

set_option autoImplicit false

namespace InfixFormula

namespace Lexer

open Text

/-! ## Terms of digits and points -/

/-- A run of digits and points has no entry in the standard table. -/
theorem NumericRun.unnamed {run : List Char} (numeric : NumericRun run) :
    String.ofList run ∉ ({} : Symbols).variableNames ∧
      String.ofList run ∉ ({} : Symbols).operators ∧
      String.ofList run ∉ ({} : Symbols).functionNames ∧
      String.ofList run ∉ ({} : Symbols).special := by
  have table : ∀ names ∈ [({} : Symbols).variableNames, ({} : Symbols).operators,
      ({} : Symbols).functionNames, ({} : Symbols).special], ∀ name ∈ names,
        name.toList.all isNumeric = false := by
    decide +kernel
  have absent (names : List Term) (listed : names ∈ [({} : Symbols).variableNames,
      ({} : Symbols).operators, ({} : Symbols).functionNames, ({} : Symbols).special]) :
      String.ofList run ∉ names := by
    intro member
    have other := table names listed _ member
    rw [String.toList_ofList, List.all_eq_true.mpr numeric.2] at other
    cases other
  exact ⟨absent _ (by simp), absent _ (by simp), absent _ (by simp), absent _ (by simp)⟩

theorem NumericRun.isVariable_eq_false {run : List Char} (numeric : NumericRun run) :
    ({} : Symbols).isVariable (String.ofList run) = false :=
  Bool.eq_false_iff.mpr fun named => numeric.unnamed.1 (Symbols.isVariable_iff.mp named)

/-- A run of digits and points is known only as a numeral. -/
theorem NumericRun.isKnown_iff {run : List Char} (numeric : NumericRun run) :
    ({} : Symbols).isKnown (String.ofList run) = true ↔
      Term.isNumeral (String.ofList run) = true := by
  obtain ⟨noVariable, noOperator, noFunction, noSpecial⟩ := numeric.unnamed
  rw [Symbols.isKnown_iff, Term.isNumeral, Option.isSome_iff_exists]
  simp only [noVariable, noOperator, noFunction, noSpecial, or_false]

/-- A run of digits and points stands for a single term. -/
theorem Reads.eq_of_numericRun {symbols : Symbols} {run : List Char} {terms : List Term}
    (reads : Reads symbols run terms) (numeric : NumericRun run) : terms = [String.ofList run] := by
  cases reads with
  | numeral _ => rfl
  | word letters =>
      obtain ⟨c, rest, rfl⟩ := List.exists_cons_of_ne_nil numeric.1
      have letter := letters.2 c List.mem_cons_self
      rw [not_isLetter_of_isNumeric (numeric.2 c List.mem_cons_self)] at letter
      cases letter
  | @blank c blank =>
      have other := (standsAlone_of_isBlank blank).1
      rw [numeric.2 c List.mem_cons_self] at other
      cases other
  | @sign c alone _ =>
      have other := alone.1
      rw [numeric.2 c List.mem_cons_self] at other
      cases other

/-- A piece of a text has its reading among those of the text. -/
theorem exists_reading_of_mem {symbols : Symbols} {pieces : List (List Char)}
    {readings : List (List Term)} (reads : List.Forall₂ (Reads symbols) pieces readings)
    {piece : List Char} (member : piece ∈ pieces) :
    ∃ reading ∈ readings, Reads symbols piece reading := by
  induction reads with
  | nil => cases member
  | cons first _ ih =>
      rcases List.mem_cons.mp member with rfl | member
      · exact ⟨_, List.mem_cons_self, first⟩
      · obtain ⟨reading, isReading, reads⟩ := ih member
        exact ⟨reading, List.mem_cons_of_mem _ isReading, reads⟩

/-- The digits of a text are the digits of its runs of digits and points. -/
theorem allDecimal_iff_runs {text : List Char} :
    AllDecimal text ↔ ∀ run ∈ runs text, NumericRun run → AllDecimal run := by
  have parts : MaximalRuns text (runs text) := maximalRuns_iff.mpr rfl
  constructor
  · intro decimal run isRun _ c member
    refine decimal c ?_
    rw [← parts.whole]
    exact List.mem_flatten.mpr ⟨run, isRun, member⟩
  · intro decimal c member digit
    rw [← parts.whole] at member
    obtain ⟨run, isRun, member⟩ := List.mem_flatten.mp member
    have numeric : isNumeric c = true := by rw [isNumeric, digit, Bool.true_or]
    exact decimal run isRun ((parts.each run isRun).numericRun member numeric) c member digit

end Lexer

namespace Engine

open Lexer Text

/-! ## What the engine takes a term for -/

/-- A term that is a number to the validation, to the builder, and where products are put in. -/
structure IsNumber (term : Term) (value : Binary64) : Prop where
  known : ({} : Symbols).isKnown term = true
  built : ∀ store given settings, Engine.settings store given = .ok settings →
    (build store {} given [term]).result = .ok (.number value)
  starts : StartsFactor {} term
  ends : EndsFactor {} term

/-- A term that is nothing to the validation, to the builder, and where products are put in. -/
structure IsUnknown (term : Term) : Prop where
  unknown : ({} : Symbols).isKnown term = false
  refused : ∀ store given settings, Engine.settings store given = .ok settings →
    (build store {} given [term]).result = .error (.ofFault (.unknownTerm term))
  notStarts : ¬ StartsFactor {} term
  notEnds : ¬ EndsFactor {} term

section Run

variable {run : List Char} (isRun : DigitRun run)
include isRun

/-- Digits with place values are a number. -/
theorem isNumber_of_allDecimal (decimal : AllDecimal run) :
    ∃ plain : PlainDecimal, plain.chars = run.map plainDigit ∧
      IsNumber (String.ofList run) plain.value := by
  obtain ⟨plain, same, read⟩ := isRun.exists_plainDecimal decimal
  have numeral : Term.isNumeral (String.ofList run) = true := isRun.isNumeral_iff.mpr decimal
  refine ⟨plain, same, isRun.numeric.isKnown_iff.mpr numeral,
    fun store given settings accepted => ?_, .inr (.inl numeral), .inl numeral⟩
  have leaf : Derives {} settings.angleUnit [] [String.ofList run] (.number plain.value) :=
    .number isRun.numeric.isVariable_eq_false read
  exact (build_eq_ok_iff_derives Symbols.regular_default accepted _ _).mpr
    ⟨leaf.of_unit _, Nat.zero_le _⟩

/-- With a digit without a place value, a run is no number and nothing else either. -/
theorem isUnknown_of_not_allDecimal (other : ¬ AllDecimal run) :
    IsUnknown (String.ofList run) := by
  have noNumeral : ¬ Term.isNumeral (String.ofList run) = true := mt isRun.isNumeral_iff.mp other
  have unknown : ({} : Symbols).isKnown (String.ofList run) = false :=
    Bool.eq_false_iff.mpr (mt isRun.numeric.isKnown_iff.mp noNumeral)
  obtain ⟨noVariable, -, noFunction, noSpecial⟩ := isRun.numeric.unnamed
  have noOpening : String.ofList run ≠ Term.opening := fun same => noSpecial (by simp [same])
  have noClosing : String.ofList run ≠ Term.closing := fun same => noSpecial (by simp [same])
  refine ⟨unknown, fun store given settings accepted => ?_, ?_, ?_⟩
  · have balanced : Bracket.Balanced [String.ofList run] :=
      .single (Bracket.weight_eq_zero noOpening noClosing)
    rw [build_eq_error_iff Symbols.regular_default.toResolved accepted, Builder.validated,
      Validation.validate, builder, Validation.checkBrackets_of_balanced balanced]
    simp only [Validation.checkTerms, List.find?_cons, unknown, Bool.not_false]
    rfl
  · rintro (same | numeral | named | named)
    · exact noOpening same
    · exact noNumeral numeral
    · exact noVariable (Symbols.isVariable_iff.mp named)
    · exact noFunction (Symbols.isFunction_iff.mp named)
  · rintro (numeral | named | same)
    · exact noNumeral numeral
    · exact noVariable (Symbols.isVariable_iff.mp named)
    · exact noClosing same

end Run

/-! ## Runs of digits in a text -/

section Read

variable {text : String} {read : List Term} (isRead : terms {} text = .ok read)
include isRead

/-- A text that is read has no run with two points. -/
theorem not_overpointed_of_read : ∀ run ∈ runs text.toList, ¬ Overpointed run := by
  intro run member overpointed
  obtain ⟨_, _, failed, _⟩ := (malformed_iff {}).mpr ⟨run, member, overpointed⟩
  rw [isRead] at failed
  cases failed

theorem digitRun_of_read {run : List Char} (member : run ∈ runs text.toList)
    (numeric : NumericRun run) (hasDigit : ∃ c ∈ run, isDigit c = true) : DigitRun run := by
  refine ⟨numeric, hasDigit, ?_⟩
  by_contra several
  exact not_overpointed_of_read isRead run member ⟨numeric, by omega⟩

/-- The term of a run of digits and points is among those of the text. -/
theorem mem_of_read {run : List Char} (member : run ∈ runs text.toList)
    (numeric : NumericRun run) : String.ofList run ∈ read := by
  obtain ⟨readings, reads, same⟩ := terms_of_sound {} (not_overpointed_of_read isRead)
  cases isRead.symm.trans same
  obtain ⟨reading, isReading, readsRun⟩ := exists_reading_of_mem reads member
  rw [readsRun.eq_of_numericRun numeric] at isReading
  exact mem_insertProducts_of_mem (List.mem_flatten.mpr ⟨_, isReading, List.mem_singleton_self _⟩)

/-- All runs with digits are numbers exactly if all digits have a place value. -/
theorem allNumerals_iff_of_read :
    (∀ run ∈ runs text.toList, NumericRun run → (∃ c ∈ run, isDigit c = true) →
      Term.isNumeral (String.ofList run) = true) ↔ AllDecimal text.toList := by
  rw [allDecimal_iff_runs]
  constructor
  · intro all run member numeric c isChar digit
    have isRun := digitRun_of_read isRead member numeric ⟨c, isChar, digit⟩
    exact isRun.isNumeral_iff.mp (all run member numeric isRun.hasDigit) c isChar digit
  · intro all run member numeric hasDigit
    exact (digitRun_of_read isRead member numeric hasDigit).isNumeral_iff.mpr
      (all run member numeric)

/-- With a digit without a place value, the terms do not pass the validation. -/
theorem unknownTerm_of_read (other : ¬ AllDecimal text.toList) :
    ∃ term, Validation.checkTerms {} read = .error (.unknownTerm term) := by
  rw [← allNumerals_iff_of_read isRead] at other
  push Not at other
  obtain ⟨run, member, numeric, -, noNumeral⟩ := other
  cases checked : Validation.checkTerms {} read with
  | ok =>
      have known := Validation.checkTerms_eq_ok_iff.mp checked _ (mem_of_read isRead member numeric)
      exact absurd (numeric.isKnown_iff.mp known) noNumeral
  | error fault =>
      obtain ⟨term, -, -, rfl⟩ := Validation.unknownTerm_of_error checked
      exact ⟨term, rfl⟩

end Read

/-- **A run with a digit is a number exactly if all of its digits have a place value.** Its term is
among those of the text. It is the number that the plain decimal with the same values writes, or
nothing. So all runs with digits are numbers exactly if all digits of the text have a place value,
and no other text passes the validation. -/
theorem numerals_of_terms {text : String} {read : List Term} (isRead : terms {} text = .ok read) :
    (∀ run ∈ runs text.toList, NumericRun run → (∃ c ∈ run, isDigit c = true) →
      String.ofList run ∈ read ∧
      (AllDecimal run → ∃ plain : PlainDecimal, plain.chars = run.map plainDigit ∧
        IsNumber (String.ofList run) plain.value) ∧
      (¬ AllDecimal run → IsUnknown (String.ofList run))) ∧
    ((∀ run ∈ runs text.toList, NumericRun run → (∃ c ∈ run, isDigit c = true) →
      Term.isNumeral (String.ofList run) = true) ↔ AllDecimal text.toList) ∧
    (¬ AllDecimal text.toList →
      ∃ term, Validation.checkTerms {} read = .error (.unknownTerm term)) := by
  refine ⟨fun run member numeric hasDigit => ?_, allNumerals_iff_of_read isRead,
    unknownTerm_of_read isRead⟩
  have isRun := digitRun_of_read isRead member numeric hasDigit
  exact ⟨mem_of_read isRead member numeric, isNumber_of_allDecimal isRun,
    isUnknown_of_not_allDecimal isRun⟩

/-- Digits of two scripts write one number, and a product is put in behind it. -/
theorem numerals_of_terms_scripts :
    terms {} "٤.2x" = .ok ["٤.2", "*", "x"] ∧
      ∃ plain : PlainDecimal, plain.chars = ['4', '.', '2'] ∧ IsNumber "٤.2" plain.value := by
  have isRead : terms {} "٤.2x" = .ok ["٤.2", "*", "x"] := by
    rw [terms_eq_of_runs]
    rfl
  have parts : runs "٤.2x".toList = [['٤', '.', '2'], ['x']] := by decide +kernel
  have member : ['٤', '.', '2'] ∈ runs "٤.2x".toList := by
    rw [parts]
    exact List.mem_cons_self
  have numeric : NumericRun ['٤', '.', '2'] :=
    ⟨List.cons_ne_nil _ _, List.all_eq_true.mp (by decide)⟩
  have decimal : AllDecimal ['٤', '.', '2'] := by decide
  have hasDigit : ∃ c ∈ ['٤', '.', '2'], isDigit c = true := ⟨'2', by decide, rfl⟩
  obtain ⟨-, isNumber, -⟩ := (numerals_of_terms isRead).1 _ member numeric hasDigit
  have plain : ['٤', '.', '2'].map plainDigit = ['4', '.', '2'] := by decide
  rw [← plain]
  exact ⟨isRead, isNumber decimal⟩

/-- **A superscript is read as a numeral and is none**: it is refused as an unknown term, and no
product is put in behind it. -/
theorem superscript_not_isNumeral :
    terms {} "²x" = .ok ["²", "x"] ∧ ['²'] ∈ runs "²x".toList ∧ NumericRun ['²'] ∧
      isDigit '²' = true ∧ Term.isNumeral "²" = false ∧
      Validation.checkTerms {} ["²", "x"] = .error (.unknownTerm "²") := by
  have isRead : terms {} "²x" = .ok ["²", "x"] := by
    rw [terms_eq_of_runs]
    rfl
  have parts : runs "²x".toList = [['²'], ['x']] := by decide +kernel
  refine ⟨isRead, ?_, ⟨List.cons_ne_nil _ _, List.all_eq_true.mp (by decide)⟩, by decide, rfl, rfl⟩
  rw [parts]
  exact List.mem_cons_self

end Engine

end InfixFormula
