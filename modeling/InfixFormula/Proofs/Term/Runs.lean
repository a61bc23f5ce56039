import InfixFormula.Proofs.Text.Classes
import Mathlib.Data.List.TakeWhile

/-!
# The runs of a text

A text falls into pieces: runs of digits and points, runs of letters, and all other characters by
themselves. There is one way to do so in which no two neighbours are runs of one sort
(`MaximalRuns`), and it gives the runs of the lexer (`maximalRuns_iff`). A piece that is no numeral
with a second point is read as the terms that it stands for (`mapM_termsOfRun`), and the first piece
that is one is the fault of the text (`mapM_termsOfRun_of_overpointed`).
-/

set_option autoImplicit false

namespace InfixFormula.Lexer

open InfixFormula.Text

/-! ## Pieces -/

/-- A run of digits and points. -/
def NumericRun (run : List Char) : Prop :=
  run ≠ [] ∧ ∀ c ∈ run, isNumeric c = true

/-- A run of letters. -/
def LetterRun (run : List Char) : Prop :=
  run ≠ [] ∧ ∀ c ∈ run, isLetter c = true

/-- A piece of a text. -/
inductive Piece : List Char → Prop
  | numeral {run : List Char} : NumericRun run → Piece run
  | word {run : List Char} : LetterRun run → Piece run
  | single {c : Char} : StandsAlone c → Piece [c]

/-- The pieces into which a text falls, where neighbours are not runs of one sort. -/
structure MaximalRuns (text : List Char) (pieces : List (List Char)) : Prop where
  whole : pieces.flatten = text
  each : ∀ piece ∈ pieces, Piece piece
  maximal : pieces.IsChain fun left right =>
    ¬ (NumericRun left ∧ NumericRun right) ∧ ¬ (LetterRun left ∧ LetterRun right)

theorem joins_iff {previous next : Char} :
    joins previous next = true ↔ (isNumeric previous = true ∧ isNumeric next = true) ∨
      (isLetter previous = true ∧ isLetter next = true) := by
  rw [joins, Bool.or_eq_true, Bool.and_eq_true, Bool.and_eq_true]

/-- What continues a run of digits and points is a digit or a point. -/
theorem isNumeric_of_joins {previous next : Char} (joined : joins previous next = true)
    (numeric : isNumeric previous = true) : isNumeric next = true := by
  rcases joins_iff.mp joined with both | ⟨letter, _⟩
  · exact both.2
  · rw [not_isLetter_of_isNumeric numeric] at letter
    cases letter

/-- What continues a run of letters is a letter. -/
theorem isLetter_of_joins {previous next : Char} (joined : joins previous next = true)
    (letter : isLetter previous = true) : isLetter next = true := by
  rcases joins_iff.mp joined with ⟨numeric, _⟩ | both
  · rw [not_isLetter_of_isNumeric numeric] at letter
    cases letter
  · exact both.2

/-- A class of characters that joining keeps holds of a whole run if it holds of the first. -/
theorem forall_of_isChain {class? : Char → Bool}
    (keeps : ∀ {previous next}, joins previous next = true → class? previous = true →
      class? next = true) (rest : List Char) :
    ∀ first : Char, (first :: rest).IsChain (fun x y => joins x y = true) →
      class? first = true → ∀ c ∈ first :: rest, class? c = true := by
  induction rest with
  | nil =>
      intro first _ belongs c member
      rwa [List.mem_singleton.mp member]
  | cons next rest ih =>
      intro first chain belongs c member
      rw [List.isChain_cons_cons] at chain
      rcases List.mem_cons.mp member with rfl | member
      · exact belongs
      · exact ih next chain.2 (keeps chain.1 belongs) c member

namespace Piece

variable {piece : List Char} {c : Char}

theorem ne_nil (isPiece : Piece piece) : piece ≠ [] := by
  cases isPiece with
  | numeral run => exact run.1
  | word run => exact run.1
  | single _ => exact List.cons_ne_nil _ _

/-- A piece with a digit or a point is a run of them. -/
theorem numericRun (isPiece : Piece piece) (member : c ∈ piece) (numeric : isNumeric c = true) :
    NumericRun piece := by
  cases isPiece with
  | numeral run => exact run
  | word run =>
      have letter := run.2 c member
      rw [not_isLetter_of_isNumeric numeric] at letter
      cases letter
  | single alone =>
      rw [List.mem_singleton.mp member, alone.1] at numeric
      cases numeric

/-- A piece with a letter is a run of letters. -/
theorem letterRun (isPiece : Piece piece) (member : c ∈ piece) (letter : isLetter c = true) :
    LetterRun piece := by
  cases isPiece with
  | numeral run =>
      rw [not_isLetter_of_isNumeric (run.2 c member)] at letter
      cases letter
  | word run => exact run
  | single alone =>
      rw [List.mem_singleton.mp member, alone.2] at letter
      cases letter

/-- The characters of a piece join. -/
theorem isChain (isPiece : Piece piece) : piece.IsChain fun x y => joins x y = true := by
  cases isPiece with
  | numeral run =>
      refine (List.pairwise_of_forall_mem_list fun x memberX y memberY => ?_).isChain
      exact joins_iff.mpr (.inl ⟨run.2 x memberX, run.2 y memberY⟩)
  | word run =>
      refine (List.pairwise_of_forall_mem_list fun x memberX y memberY => ?_).isChain
      exact joins_iff.mpr (.inr ⟨run.2 x memberX, run.2 y memberY⟩)
  | single _ => exact List.isChain_singleton _

/-- Characters that join are a piece. -/
theorem of_isChain (nonempty : piece ≠ [])
    (chain : piece.IsChain fun x y => joins x y = true) : Piece piece := by
  obtain ⟨first, rest, rfl⟩ := List.exists_cons_of_ne_nil nonempty
  by_cases numeric : isNumeric first = true
  · exact .numeral ⟨nonempty, forall_of_isChain isNumeric_of_joins rest first chain numeric⟩
  by_cases letter : isLetter first = true
  · exact .word ⟨nonempty, forall_of_isChain isLetter_of_joins rest first chain letter⟩
  have alone : StandsAlone first := ⟨Bool.eq_false_iff.mpr numeric, Bool.eq_false_iff.mpr letter⟩
  cases rest with
  | nil => exact .single alone
  | cons next rest =>
      rw [List.isChain_cons_cons, joins_of_standsAlone_left alone] at chain
      cases chain.1

end Piece

/-- **The runs of the lexer are the only pieces of a text in which neighbours are not runs of one
sort.** -/
theorem maximalRuns_iff {text : List Char} {pieces : List (List Char)} :
    MaximalRuns text pieces ↔ runs text = pieces := by
  rw [runs, List.splitBy_eq_iff]
  constructor
  · rintro ⟨whole, isPiece, maximal⟩
    refine ⟨whole.symm, fun empty => (isPiece [] empty).ne_nil rfl,
      fun piece member => (isPiece piece member).isChain, ?_⟩
    refine maximal.imp_of_mem_imp fun left right memberLeft memberRight apart => ?_
    have isLeft := isPiece left memberLeft
    have isRight := isPiece right memberRight
    refine ⟨isLeft.ne_nil, isRight.ne_nil, Bool.eq_false_iff.mpr fun joined => ?_⟩
    have last := List.getLast_mem isLeft.ne_nil
    have first := List.head_mem isRight.ne_nil
    rcases joins_iff.mp joined with ⟨numericLeft, numericRight⟩ | ⟨letterLeft, letterRight⟩
    · exact apart.1 ⟨isLeft.numericRun last numericLeft, isRight.numericRun first numericRight⟩
    · exact apart.2 ⟨isLeft.letterRun last letterLeft, isRight.letterRun first letterRight⟩
  · rintro ⟨whole, nonempty, chains, separate⟩
    refine ⟨whole.symm, fun piece member => .of_isChain ?_ (chains piece member), ?_⟩
    · rintro rfl
      exact nonempty member
    · refine separate.imp fun left right => ?_
      rintro ⟨nonemptyLeft, nonemptyRight, apart⟩
      rw [← Bool.not_eq_true, joins_iff, not_or] at apart
      have last := List.getLast_mem nonemptyLeft
      have first := List.head_mem nonemptyRight
      exact ⟨fun both => apart.1 ⟨both.1.2 _ last, both.2.2 _ first⟩,
        fun both => apart.2 ⟨both.1.2 _ last, both.2.2 _ first⟩⟩

/-! ## Points in a numeral -/

theorem numeral_of_noPoint {run : List Char} (noPoint : '.' ∉ run) :
    numeral run = .ok (String.ofList run) := by
  have noRest : run.dropWhile (· ≠ '.') = [] := by
    refine List.dropWhile_eq_nil_iff.mpr fun c member => decide_eq_true ?_
    rintro rfl
    exact noPoint member
  simp only [numeral, noRest]
  rfl

/-- A numeral with a first point is refused if there is another one behind it. -/
theorem numeral_of_point {whole fraction : List Char} (noPoint : '.' ∉ whole) :
    numeral (whole ++ '.' :: fraction) =
      if '.' ∈ fraction then
        .error (.secondPoint (String.ofList (whole ++ '.' :: fraction.takeWhile (· ≠ '.'))))
      else .ok (String.ofList (whole ++ '.' :: fraction)) := by
  have before : ∀ c ∈ whole, decide (c ≠ '.') = true := by
    intro c member
    refine decide_eq_true ?_
    rintro rfl
    exact noPoint member
  have start : (whole ++ '.' :: fraction).takeWhile (· ≠ '.') = whole := by
    rw [List.takeWhile_append_of_pos before, List.takeWhile_cons_of_neg (by decide),
      List.append_nil]
  have rest : (whole ++ '.' :: fraction).dropWhile (· ≠ '.') = '.' :: fraction := by
    rw [List.dropWhile_append_of_pos before, List.dropWhile_cons_of_neg (by decide)]
  simp only [numeral, start, rest, List.drop_one, List.tail_cons]

/-- **A run with at most one point is a numeral.** -/
theorem numeral_of_count {run : List Char} (single : run.count '.' ≤ 1) :
    numeral run = .ok (String.ofList run) := by
  by_cases point : '.' ∈ run
  · obtain ⟨whole, fraction, rfl, noPoint⟩ := List.eq_append_cons_of_mem point
    have noOther : '.' ∉ fraction := by
      rw [List.count_append, List.count_cons_self] at single
      exact List.count_eq_zero.mp (by omega)
    rw [numeral_of_point noPoint, if_neg noOther]
  · exact numeral_of_noPoint point

/-- **The fault of a second point has the text in front of it.** -/
theorem numeral_of_secondPoint {start rest : List Char} (single : start.count '.' = 1) :
    numeral (start ++ '.' :: rest) = .error (.secondPoint (String.ofList start)) := by
  have point : '.' ∈ start := List.count_pos_iff.mp (by omega)
  obtain ⟨whole, fraction, rfl, noPoint⟩ := List.eq_append_cons_of_mem point
  rw [List.count_append, List.count_cons_self, List.count_eq_zero.mpr noPoint] at single
  have noOther : '.' ∉ fraction := List.count_eq_zero.mp (by omega)
  have before : ∀ c ∈ fraction, decide (c ≠ '.') = true := by
    intro c member
    refine decide_eq_true ?_
    rintro rfl
    exact noOther member
  rw [List.append_assoc, List.cons_append, numeral_of_point noPoint,
    if_pos (List.mem_append_right _ List.mem_cons_self), List.takeWhile_append_of_pos before,
    List.takeWhile_cons_of_neg (by decide), List.append_nil]

/-- A run with two points or more has a second one. -/
theorem exists_secondPoint {run : List Char} (several : 2 ≤ run.count '.') :
    ∃ start rest, run = start ++ '.' :: rest ∧ start.count '.' = 1 := by
  have point : '.' ∈ run := List.count_pos_iff.mp (by omega)
  obtain ⟨whole, fraction, rfl, noPoint⟩ := List.eq_append_cons_of_mem point
  rw [List.count_append, List.count_cons_self, List.count_eq_zero.mpr noPoint] at several
  have other : '.' ∈ fraction := List.count_pos_iff.mp (by omega)
  obtain ⟨middle, rest, rfl, noOther⟩ := List.eq_append_cons_of_mem other
  refine ⟨whole ++ '.' :: middle, rest, by rw [List.append_assoc, List.cons_append], ?_⟩
  rw [List.count_append, List.count_cons_self, List.count_eq_zero.mpr noPoint,
    List.count_eq_zero.mpr noOther]

/-! ## Reading the pieces -/

/-- A run of digits and points with more than one point. -/
def Overpointed (run : List Char) : Prop :=
  NumericRun run ∧ 2 ≤ run.count '.'

instance (run : List Char) : Decidable (Overpointed run) :=
  inferInstanceAs (Decidable ((run ≠ [] ∧ ∀ c ∈ run, isNumeric c = true) ∧ 2 ≤ run.count '.'))

/-- The terms that a piece stands for. -/
inductive Reads (symbols : Symbols) : List Char → List Term → Prop
  | numeral {run : List Char} : NumericRun run → Reads symbols run [String.ofList run]
  | word {run : List Char} : LetterRun run →
      Reads symbols run (splitWord symbols (String.ofList run))
  | blank {c : Char} : isBlank c = true → Reads symbols [c] []
  | sign {c : Char} : StandsAlone c → isBlank c = false → Reads symbols [c] [String.singleton c]

/-- Every piece stands for some terms. -/
theorem Piece.exists_reads (symbols : Symbols) {piece : List Char} (isPiece : Piece piece) :
    ∃ terms, Reads symbols piece terms := by
  cases isPiece with
  | numeral run => exact ⟨_, .numeral run⟩
  | word run => exact ⟨_, .word run⟩
  | @single c alone =>
      by_cases blank : isBlank c = true
      · exact ⟨_, .blank blank⟩
      · exact ⟨_, .sign alone (Bool.eq_false_iff.mpr blank)⟩

variable {symbols : Symbols}

/-- A run of digits and points is read as a numeral. -/
theorem termsOfRun_of_numericRun {run : List Char} (numeric : NumericRun run) :
    termsOfRun symbols run = (numeral run).map fun term => [term] := by
  obtain ⟨first, rest, rfl⟩ := List.exists_cons_of_ne_nil numeric.1
  rw [termsOfRun, if_pos (numeric.2 first List.mem_cons_self)]

/-- **A piece is read as the terms that it stands for**, unless it has a second point. -/
theorem termsOfRun_of_reads {piece : List Char} {terms : List Term}
    (reads : Reads symbols piece terms) (sound : ¬ Overpointed piece) :
    termsOfRun symbols piece = .ok terms := by
  cases reads with
  | numeral run =>
      have single : piece.count '.' ≤ 1 := by
        by_contra several
        exact sound ⟨run, by omega⟩
      rw [termsOfRun_of_numericRun run, numeral_of_count single]
      rfl
  | word run =>
      obtain ⟨first, rest, rfl⟩ := List.exists_cons_of_ne_nil run.1
      have letter := run.2 first List.mem_cons_self
      have noNumeral : isNumeric first = false := by
        rw [← Bool.not_eq_true]
        intro numeric
        rw [not_isLetter_of_isNumeric numeric] at letter
        cases letter
      have solid : isBlank first = false := by
        rw [← Bool.not_eq_true]
        intro blank
        rw [(standsAlone_of_isBlank blank).2] at letter
        cases letter
      rw [termsOfRun, noNumeral, solid, letter]
      rfl
  | blank blank =>
      rw [termsOfRun, (standsAlone_of_isBlank blank).1, blank]
      rfl
  | sign alone solid =>
      rw [termsOfRun, alone.1, solid, alone.2]
      rfl

/-- Pieces without a second point are read as the terms that they stand for. -/
theorem mapM_termsOfRun (symbols : Symbols) {pieces : List (List Char)}
    (isPiece : ∀ piece ∈ pieces, Piece piece)
    (sound : ∀ piece ∈ pieces, ¬ Overpointed piece) :
    ∃ readings, List.Forall₂ (Reads symbols) pieces readings ∧
      pieces.mapM (termsOfRun symbols) = .ok readings := by
  induction pieces with
  | nil => exact ⟨[], .nil, rfl⟩
  | cons piece pieces ih =>
      obtain ⟨isFirst, isPiece⟩ := List.forall_mem_cons.mp isPiece
      obtain ⟨soundFirst, sound⟩ := List.forall_mem_cons.mp sound
      obtain ⟨terms, reads⟩ := isFirst.exists_reads symbols
      obtain ⟨readings, readsLater, readLater⟩ := ih isPiece sound
      refine ⟨terms :: readings, .cons reads readsLater, ?_⟩
      rw [List.mapM_cons, termsOfRun_of_reads reads soundFirst, readLater]
      rfl

/-- The first piece with a second point is the fault of the text. -/
theorem mapM_termsOfRun_of_overpointed (symbols : Symbols) {before after : List (List Char)}
    {piece : List Char}
    (isPiece : ∀ other ∈ before, Piece other) (sound : ∀ other ∈ before, ¬ Overpointed other)
    (overpointed : Overpointed piece) :
    ∃ start rest, piece = start ++ '.' :: rest ∧ start.count '.' = 1 ∧
      (before ++ piece :: after).mapM (termsOfRun symbols) =
        .error (.secondPoint (String.ofList start)) := by
  obtain ⟨start, rest, rfl, single⟩ := exists_secondPoint overpointed.2
  have fails : termsOfRun symbols (start ++ '.' :: rest) =
      .error (.secondPoint (String.ofList start)) := by
    rw [termsOfRun_of_numericRun overpointed.1, numeral_of_secondPoint single]
    rfl
  refine ⟨start, rest, rfl, single, mapM_of_first_error (fun earlier member => ?_) fails⟩
  obtain ⟨terms, reads⟩ := (isPiece earlier member).exists_reads symbols
  exact ⟨terms, termsOfRun_of_reads reads (sound earlier member)⟩

/-! ## What is found -/

/-- Every term that is found in a text is read from a piece of the text. -/
theorem exists_reads_of_found {text : List Char} {terms : List Term} {term : Term}
    (isFound : found symbols text = .ok terms) (member : term ∈ terms) :
    ∃ piece reading, piece ∈ runs text ∧ Reads symbols piece reading ∧ ¬ Overpointed piece ∧
      term ∈ reading := by
  obtain ⟨readings, passed, rfl⟩ := map_eq_ok_iff.mp isFound
  obtain ⟨reading, isReading, member⟩ := List.mem_flatten.mp member
  obtain ⟨piece, isRun, read⟩ := exists_of_mapM_ok passed reading isReading
  obtain ⟨other, reads⟩ := ((maximalRuns_iff.mpr rfl).each piece isRun).exists_reads symbols
  have sound : ¬ Overpointed piece := by
    rintro ⟨numeric, several⟩
    obtain ⟨start, rest, rfl, single⟩ := exists_secondPoint several
    rw [termsOfRun_of_numericRun numeric, numeral_of_secondPoint single] at read
    cases read
  rw [termsOfRun_of_reads reads sound] at read
  cases read
  exact ⟨piece, reading, isRun, reads, sound, member⟩

/-- A word becomes the value of a constant, is kept whole, or is split into variables. -/
theorem splitWord_cases (symbols : Symbols) (word : Term) :
    (∃ value, constants.lookup word = some value ∧ splitWord symbols word = [value]) ∨
      splitWord symbols word = [word] ∨
      (splitWord symbols word = word.toList.map String.singleton ∧
        ∀ c ∈ word.toList, symbols.isVariable (String.singleton c) = true) := by
  rw [splitWord]
  split
  next value constant => exact .inl ⟨value, constant, rfl⟩
  next =>
    split
    next => exact .inr (.inl rfl)
    next =>
      dsimp only
      split
      next named => exact .inr (.inr ⟨rfl, by simpa using named⟩)
      next => exact .inr (.inl rfl)

/-- The characters of a term are those of its piece, unless the term is the value of a constant. -/
theorem Reads.chars {piece : List Char} {terms : List Term} (reads : Reads symbols piece terms) :
    ∀ term ∈ terms, (∃ word, constants.lookup word = some term) ∨
      ∀ c ∈ term.toList, c ∈ piece := by
  have itself : ∀ term ∈ [String.ofList piece], (∃ word, constants.lookup word = some term) ∨
      ∀ c ∈ term.toList, c ∈ piece := by
    rw [List.forall_mem_singleton, String.toList_ofList]
    exact .inr fun _ member => member
  cases reads with
  | numeral _ => exact itself
  | blank _ => exact nofun
  | @sign c _ _ =>
      rw [String.singleton_eq_ofList]
      exact itself
  | word _ =>
      rcases splitWord_cases symbols (String.ofList piece) with
        ⟨value, constant, same⟩ | same | ⟨same, _⟩
      · rw [same, List.forall_mem_singleton]
        exact .inl ⟨_, constant⟩
      · rw [same]
        exact itself
      · rw [same, List.forall_mem_map, String.toList_ofList]
        intro letter member
        rw [String.toList_singleton, List.forall_mem_singleton]
        exact .inr member

/-- **The lexer makes no characters up**: those of a term are in the text, unless the term is the
value of a constant. -/
theorem chars_of_found {text : List Char} {terms : List Term} {term : Term}
    (isFound : found symbols text = .ok terms) (member : term ∈ terms) :
    (∃ word, constants.lookup word = some term) ∨ ∀ c ∈ term.toList, c ∈ text := by
  obtain ⟨piece, reading, isRun, reads, _, member⟩ := exists_reads_of_found isFound member
  refine (reads.chars term member).imp_right fun within c isChar => ?_
  have whole : (runs text).flatten = text := (maximalRuns_iff.mpr rfl).whole
  rw [← whole]
  exact List.mem_flatten.mpr ⟨piece, isRun, within c isChar⟩

end InfixFormula.Lexer
