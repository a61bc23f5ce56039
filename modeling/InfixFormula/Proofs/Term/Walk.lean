import InfixFormula.Proofs.Term.Products
import InfixFormula.Proofs.Term.Runs

/-!
# What the lexer gives

The lexer reads a text in one walk, which moves a place past what the character there begins: past
the digits and points of a numeral, of which it counts the points on the way, past the letters of a
word, or past the character itself. It gives the terms of the runs of the text, and where there is a
second point it stops with the fault of the run (`walk_eq_found`). This is its only fault
(`secondPoint_of_error`).

So terms are read as they are where no term joins what follows it and no product is left out between
neighbours (`LaidOut.read`), with any blanks between terms that stay apart (`terms_of_spaced`).
-/

set_option autoImplicit false

namespace InfixFormula.Lexer

open InfixFormula.Text

theorem count_point (c : Char) : [c].count '.' = (decide (c = '.')).toNat := by
  rw [List.count_singleton]
  by_cases point : c = '.'
  · rw [point]
    rfl
  · rw [decide_eq_false point, if_neg (by rwa [beq_iff_eq])]
    rfl

/-- **A numeral is read to the end of its run, or to a second point in it.** -/
theorem takeNumeral_eq (rest : List Char) : ∀ (start : List Char) (pointed : Bool),
    start.count '.' = pointed.toNat →
      takeNumeral start pointed rest =
        (numeral (start ++ rest.takeWhile isNumeric)).map fun term =>
          (term, rest.dropWhile isNumeric) := by
  induction rest with
  | nil =>
      intro start pointed points
      rw [List.takeWhile_nil, List.append_nil, numeral_of_count (points ▸ pointed.toNat_le)]
      rfl
  | cons c rest ih =>
      intro start pointed points
      by_cases numeric : isNumeric c = true
      · rw [takeNumeral, if_pos numeric, List.takeWhile_cons_of_pos numeric,
          List.dropWhile_cons_of_pos numeric]
        have shift : start ++ c :: rest.takeWhile isNumeric =
            start ++ [c] ++ rest.takeWhile isNumeric := by rw [List.append_cons]
        have count : (start ++ [c]).count '.' = start.count '.' + [c].count '.' :=
          List.count_append
        by_cases point : c = '.'
        · subst point
          rw [if_pos rfl]
          cases pointed with
          | true =>
              rw [if_pos rfl, numeral_of_secondPoint points]
              rfl
          | false =>
              rw [if_neg Bool.false_ne_true, shift, ih _ true (count.trans (by rw [points]; rfl))]
        · have noPoint : [c].count '.' = 0 := by
            rw [count_point, decide_eq_false point]
            rfl
          rw [if_neg point, shift, ih _ pointed (by rw [count, noPoint, points, Nat.add_zero])]
      · rw [takeNumeral, if_neg numeric, List.takeWhile_cons_of_neg numeric, List.append_nil,
          List.dropWhile_cons_of_neg numeric, numeral_of_count (points ▸ pointed.toNat_le)]
        rfl

variable {symbols : Symbols}

/-- A text is read run by run: first the run of its first character, then what is behind it. -/
theorem found_cons {class? : Char → Bool}
    (keeps : ∀ {previous next}, joins previous next = true → class? previous = true →
      class? next = true)
    {c : Char} {rest : List Char} (belongs : class? c = true)
    (isPiece : Piece (c :: rest.takeWhile class?)) :
    found symbols (c :: rest) = termsOfRun symbols (c :: rest.takeWhile class?) >>= fun first =>
      (found symbols (rest.dropWhile class?)).map (first ++ ·) := by
  have whole : c :: rest = (c :: rest.takeWhile class?) ++ rest.dropWhile class? := by
    rw [List.cons_append, List.takeWhile_append_dropWhile]
  rw [← found_run isPiece.ne_nil isPiece.isChain, ← found_append_eq, ← whole]
  intro x last y first
  refine Bool.eq_false_iff.mpr fun joined => ?_
  have within : class? x = true := by
    rcases List.mem_cons.mp (List.mem_of_getLast? last) with rfl | member
    · exact belongs
    · exact List.mem_takeWhile_imp member
  rw [← List.find?_not_eq_head?_dropWhile] at first
  have ends := List.find?_some first
  rw [keeps joined within] at ends
  cases ends

theorem forall_cons_takeWhile {class? : Char → Bool} {c : Char} {rest : List Char}
    (belongs : class? c = true) : ∀ x ∈ c :: rest.takeWhile class?, class? x = true :=
  List.forall_mem_cons.mpr ⟨belongs, fun _ => List.mem_takeWhile_imp⟩

/-- A digit or a point begins a numeral. -/
theorem found_cons_numeral {c : Char} {rest : List Char} (numeric : isNumeric c = true) :
    found symbols (c :: rest) = takeNumeral [c] (c = '.') rest >>= fun taken =>
      (found symbols taken.2).map (taken.1 :: ·) := by
  have isPiece : Piece (c :: rest.takeWhile isNumeric) :=
    .numeral ⟨List.cons_ne_nil _ _, forall_cons_takeWhile numeric⟩
  rw [found_cons isNumeric_of_joins numeric isPiece, termsOfRun, if_pos numeric,
    takeNumeral_eq rest [c] _ (count_point c), List.singleton_append]
  cases numeral (c :: rest.takeWhile isNumeric) <;> rfl

/-- A letter begins a word. -/
theorem found_cons_word {c : Char} {rest : List Char} (notNumeric : isNumeric c ≠ true)
    (solid : isBlank c ≠ true) (letter : isLetter c = true) :
    found symbols (c :: rest) = (found symbols (rest.dropWhile isLetter)).map
      (splitWord symbols (String.ofList (c :: rest.takeWhile isLetter)) ++ ·) := by
  have isPiece : Piece (c :: rest.takeWhile isLetter) :=
    .word ⟨List.cons_ne_nil _ _, forall_cons_takeWhile letter⟩
  rw [found_cons isLetter_of_joins letter isPiece, termsOfRun, if_neg notNumeric, if_neg solid,
    if_pos letter]
  rfl

/-- Any other character is read by itself. -/
theorem found_cons_alone {c : Char} {rest : List Char} (alone : StandsAlone c) :
    found symbols (c :: rest) = termsOfRun symbols [c] >>= fun first =>
      (found symbols rest).map (first ++ ·) := by
  rw [← found_run (List.cons_ne_nil c []) (List.isChain_singleton c), ← found_append_eq,
    List.singleton_append]
  rintro _ ⟨⟩ y _
  exact joins_of_standsAlone_left alone

/-- **The walk reads what the runs of a text stand for.** -/
theorem walk_eq_found (text : List Char) : walk symbols text = found symbols text := by
  fun_induction walk symbols text with
  | case1 => rfl
  | case2 c rest numeric fault taken =>
      rw [found_cons_numeral numeric, taken]
      rfl
  | case3 c rest numeric term after taken ih =>
      rw [found_cons_numeral numeric, taken, ih]
      rfl
  | case4 c rest notNumeric blank ih =>
      rw [found_cons_alone (standsAlone_of_isBlank blank), termsOfRun, if_neg notNumeric,
        if_pos blank, ih]
      cases found symbols rest <;> rfl
  | case5 c rest notNumeric solid letter ih =>
      rw [found_cons_word notNumeric solid letter, ih]
  | case6 c rest notNumeric solid notLetter ih =>
      rw [found_cons_alone ⟨Bool.eq_false_iff.mpr notNumeric, Bool.eq_false_iff.mpr notLetter⟩,
        termsOfRun, if_neg notNumeric, if_neg solid, if_neg notLetter, ih]
      rfl

/-- **The lexer gives what the runs of a text stand for**, with the products that were left out. -/
theorem terms_eq (text : String) :
    terms symbols text = (found symbols text.toList).map (insertProducts symbols) := by
  rw [terms, walk_eq_found]

/-! ## Faults -/

theorem secondPoint_of_takeNumeral {start rest : List Char} {pointed : Bool} {fault : Fault}
    (failed : takeNumeral start pointed rest = .error fault) :
    ∃ start, fault = .secondPoint start := by
  fun_induction takeNumeral start pointed rest with
  | case1 | case5 => cases failed
  | case2 =>
      cases failed
      exact ⟨_, rfl⟩
  | case3 _ _ _ _ _ ih | case4 _ _ _ _ _ _ ih => exact ih failed

theorem secondPoint_of_walk {text : List Char} {fault : Fault}
    (failed : walk symbols text = .error fault) : ∃ start, fault = .secondPoint start := by
  fun_induction walk symbols text with
  | case1 => cases failed
  | case2 _ _ _ _ taken =>
      cases failed
      exact secondPoint_of_takeNumeral taken
  | case3 _ _ _ _ _ _ ih | case5 _ _ _ _ _ ih | case6 _ _ _ _ _ ih =>
      exact ih (map_eq_error_iff.mp failed)
  | case4 _ _ _ _ ih => exact ih failed

/-- **The only fault of the lexer is a second point in a number.** -/
theorem secondPoint_of_error {text : String} {fault : Fault}
    (failed : terms symbols text = .error fault) : ∃ start, fault = .secondPoint start :=
  secondPoint_of_walk (map_eq_error_iff.mp failed)

/-! ## Terms of a text that is set out -/

/-- **Terms that join nothing and leave no product out are what the lexer gives.** -/
theorem LaidOut.read {terms : List Term} {text : String} (laidOut : LaidOut terms text.toList)
    (lexemes : ∀ term ∈ terms, Lexeme symbols term)
    (complete : terms.IsChain fun left right => isProduct symbols left right = false) :
    Lexer.terms symbols text = .ok terms := by
  rw [terms_eq, laidOut.found lexemes]
  exact congrArg Except.ok (insertProducts_of_isChain complete)

/-- Two terms that stay apart and leave no product out between them. -/
def Separate (symbols : Symbols) (left right : Term) : Prop :=
  Apart left right ∧ isProduct symbols left right = false

/-- **Separate terms are what the lexer gives**, with any blanks between them. -/
theorem terms_of_spaced {terms : List Term} {text : String} (spaced : Spaced terms text.toList)
    (lexemes : ∀ term ∈ terms, Lexeme symbols term)
    (separate : terms.IsChain (Separate symbols)) : Lexer.terms symbols text = .ok terms :=
  (spaced.laidOut lexemes (separate.imp fun _ _ => And.left)).read lexemes
    (separate.imp fun _ _ => And.right)

end InfixFormula.Lexer
