import InfixFormula.Proofs.Term.Walk

/-!
# Reading terms again

What the lexer gives can be read again. Every term that it finds is a lexeme (`lexeme_of_found`):
the value of a constant is a numeral, a word that is kept whole is kept whole again, and the letters
of a word that is split are words of one letter, which are no constants. With blanks between any two
of them, lexemes are found one by one (`Separated.laidOut`); and where products have been put in,
none is left out that could be put in again. So the terms of a text, written with blanks between
them, are the terms of what is written (`terms_of_separated`).
-/

set_option autoImplicit false

namespace InfixFormula.Lexer

open InfixFormula.Text

/-! ## Terms with blanks between any two -/

/-- The texts that write the terms one after the other with blanks between any two of them. -/
inductive Separated : List Term → List Char → Prop
  | done : Separated [] []
  | blank {c : Char} {terms : List Term} {text : List Char} :
      isBlank c = true → Separated terms text → Separated terms (c :: text)
  | term {term : Term} {terms : List Term} {text : List Char} :
      (∀ c ∈ text.head?, isBlank c = true) → Separated terms text →
        Separated (term :: terms) (term.toList ++ text)

/-- A term joins no blank. -/
theorem Separated.laidOut {terms : List Term} {text : List Char}
    (separated : Separated terms text) : LaidOut terms text := by
  induction separated with
  | done => exact .done
  | blank isBlank _ ih => exact .blank isBlank ih
  | term gap _ ih =>
      exact .term (fun _ _ c first => joins_of_standsAlone_right
        (standsAlone_of_isBlank (gap c first))) ih

/-! ## What is found is a lexeme -/

section Lexemes

variable {symbols : Symbols}

/-- A piece that is read as a single term is a lexeme. -/
theorem Piece.lexeme {run : List Char} (isPiece : Piece run)
    (read : termsOfRun symbols run = .ok [String.ofList run]) :
    Lexeme symbols (String.ofList run) := by
  refine ⟨?_, ?_, ?_⟩ <;> rw [String.toList_ofList]
  · exact isPiece.ne_nil
  · exact isPiece.isChain
  · exact read

theorem lexeme_of_numericRun {run : List Char} (numeric : NumericRun run)
    (sound : ¬ Overpointed run) : Lexeme symbols (String.ofList run) :=
  (Piece.numeral numeric).lexeme (termsOfRun_of_reads (.numeral numeric) sound)

/-- A run of letters is no numeral. -/
theorem LetterRun.sound {run : List Char} (letters : LetterRun run) : ¬ Overpointed run := by
  rintro ⟨numeric, _⟩
  obtain ⟨first, member⟩ := List.exists_mem_of_ne_nil run letters.1
  have noLetter := not_isLetter_of_isNumeric (numeric.2 first member)
  rw [letters.2 first member] at noLetter
  cases noLetter

/-- A word that is kept whole is a lexeme. -/
theorem lexeme_of_word {run : List Char} (letters : LetterRun run)
    (whole : splitWord symbols (String.ofList run) = [String.ofList run]) :
    Lexeme symbols (String.ofList run) :=
  (Piece.word letters).lexeme
    ((termsOfRun_of_reads (.word letters) letters.sound).trans (congrArg Except.ok whole))

/-- The value of a constant is a numeral. -/
theorem lexeme_of_constant {word value : Term} (constant : constants.lookup word = some value) :
    Lexeme symbols value := by
  have numerals : ∀ entry ∈ constants, entry.2.toList ≠ [] ∧
      entry.2.toList.all isNumeric = true ∧ entry.2.toList.count '.' ≤ 1 := by
    decide +kernel
  obtain ⟨before, after, parts, _⟩ := List.lookup_eq_some_iff.mp constant
  obtain ⟨nonempty, numeric, single⟩ :=
    numerals (word, value) (parts ▸ List.mem_append_cons_self)
  have lexeme : Lexeme symbols (String.ofList value.toList) :=
    lexeme_of_numericRun ⟨nonempty, List.all_eq_true.mp numeric⟩ fun overpointed =>
      absurd overpointed.2 (Nat.not_le.mpr (Nat.lt_succ_of_le single))
  rwa [String.ofList_toList] at lexeme

/-- The terms of a word are lexemes, if no constant is a variable. -/
theorem lexeme_of_splitWord {run : List Char} (letters : LetterRun run)
    (apart : ∀ name ∈ symbols.variableNames, constants.lookup name = none) :
    ∀ term ∈ splitWord symbols (String.ofList run), Lexeme symbols term := by
  rcases splitWord_cases symbols (String.ofList run) with
    ⟨value, constant, same⟩ | same | ⟨same, named⟩
  · rw [same, List.forall_mem_singleton]
    exact lexeme_of_constant constant
  · rw [same, List.forall_mem_singleton]
    exact lexeme_of_word letters same
  · rw [same, List.forall_mem_map]
    rw [String.toList_ofList] at named ⊢
    intro c member
    have isVariable := named c member
    have single : splitWord symbols (String.singleton c) = [String.singleton c] := by
      rw [splitWord, apart _ (Symbols.isVariable_iff.mp isVariable), isVariable, Bool.or_true]
      rfl
    rw [String.singleton_eq_ofList] at single ⊢
    exact lexeme_of_word
      ⟨List.cons_ne_nil _ _, List.forall_mem_singleton.mpr (letters.2 c member)⟩ single

/-- **Every term that the lexer finds is a lexeme**, if no constant is a variable. -/
theorem lexeme_of_found {text : List Char} {terms : List Term}
    (apart : ∀ name ∈ symbols.variableNames, constants.lookup name = none)
    (isFound : found symbols text = .ok terms) : ∀ term ∈ terms, Lexeme symbols term := by
  intro term member
  obtain ⟨piece, reading, _, reads, sound, member⟩ := exists_reads_of_found isFound member
  cases reads with
  | numeral numeric =>
      rw [List.mem_singleton.mp member]
      exact lexeme_of_numericRun numeric sound
  | word letters => exact lexeme_of_splitWord letters apart term member
  | blank _ => cases member
  | @sign c alone solid =>
      rw [List.mem_singleton.mp member]
      exact Mark.lexeme ⟨c, String.toList_singleton c, alone, solid⟩

/-- **The terms of a text, written with blanks between them, are read again.** -/
theorem terms_of_separated {text other : String} {terms : List Term} (regular : symbols.Regular)
    (multiplies : Term.times ∈ symbols.operators)
    (apart : ∀ name ∈ symbols.variableNames, constants.lookup name = none)
    (read : Lexer.terms symbols text = .ok terms) (separated : Separated terms other.toList) :
    Lexer.terms symbols other = .ok terms := by
  rw [terms_eq] at read
  obtain ⟨before, isFound, rfl⟩ := map_eq_ok_iff.mp read
  have lexemes : ∀ term ∈ insertProducts symbols before, Lexeme symbols term := by
    intro term member
    rcases mem_insertProducts member with member | rfl
    · exact lexeme_of_found apart isFound term member
    · exact Mark.lexeme ⟨'*', rfl, by decide, by decide⟩
  exact separated.laidOut.read lexemes (isChain_insertProducts regular multiplies before)

end Lexemes

end InfixFormula.Lexer
