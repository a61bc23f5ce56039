import InfixFormula.Proofs.Result
import InfixFormula.Term.Lexer
import Mathlib.Data.List.SplitBy

/-!
# Reading run by run

A text falls into runs: the longest runs of digits and points, the longest runs of letters, and all
other characters by themselves (`runs`). A run of digits is a numeral, a run of letters is a word,
blanks vanish, and every other character is a term of its own (`termsOfRun`). What the runs of a
text stand for, one after the other (`found`), is a description of the lexer without its place in
the text.

Where two pieces of a text do not join, each of them is read by itself (`found_append_eq`). So a
list of terms is found again in a text where no term joins what follows it (`LaidOut.found`), and
terms that stay apart when they are put side by side can be written with any blanks between them, or
none (`Spaced.laidOut`).
-/

set_option autoImplicit false

namespace InfixFormula

namespace Text

/-- A code point in a table lies in one of its ranges. -/
theorem exists_of_inRanges {ranges : List (Nat × Nat)} {point : Nat}
    (within : inRanges ranges point = true) :
    ∃ range ∈ ranges, range.1 ≤ point ∧ point ≤ range.2 := by
  induction ranges with
  | nil => cases within
  | cons range later ih =>
      rw [inRanges] at within
      split at within
      next below => exact ⟨range, List.mem_cons_self, of_decide_eq_true within, below⟩
      next =>
        obtain ⟨other, member, bounds⟩ := ih within
        exact ⟨other, List.mem_cons_of_mem range member, bounds⟩

end Text

namespace Lexer

open InfixFormula.Text

/-! ## Runs -/

/-- Whether a character continues the run of the one before it. -/
def joins (previous next : Char) : Bool :=
  (isNumeric previous && isNumeric next) || (isLetter previous && isLetter next)

/-- The runs of a text. -/
def runs (text : List Char) : List (List Char) :=
  text.splitBy joins

/-- A numeral, which has at most one point. -/
def numeral (run : List Char) : Except Fault Term :=
  let whole := run.takeWhile (· ≠ '.')
  let fraction := (run.dropWhile (· ≠ '.')).drop 1
  if '.' ∈ fraction then
    .error (.secondPoint (String.ofList (whole ++ '.' :: fraction.takeWhile (· ≠ '.'))))
  else .ok (String.ofList run)

/-- The terms of a run, which are determined by its first character. -/
def termsOfRun (symbols : Symbols) (run : List Char) : Except Fault (List Term) :=
  match run with
  | [] => .ok []
  | c :: _ =>
      if isNumeric c then (numeral run).map fun term => [term]
      else if isBlank c then .ok []
      else if isLetter c then .ok (splitWord symbols (String.ofList run))
      else .ok [String.ofList run]

/-- The terms of the runs of a text, one after the other. -/
def found (symbols : Symbols) (text : List Char) : Except Fault (List Term) :=
  ((runs text).mapM (termsOfRun symbols)).map List.flatten

/-! ## Characters that stand alone -/

/-- A character that no run takes in. -/
def StandsAlone (c : Char) : Prop :=
  isNumeric c = false ∧ isLetter c = false

instance (c : Char) : Decidable (StandsAlone c) :=
  inferInstanceAs (Decidable (isNumeric c = false ∧ isLetter c = false))

theorem joins_of_standsAlone_left {previous next : Char} (alone : StandsAlone previous) :
    joins previous next = false := by
  rw [joins, alone.1, alone.2, Bool.false_and, Bool.false_and, Bool.or_self]

theorem joins_of_standsAlone_right {previous next : Char} (alone : StandsAlone next) :
    joins previous next = false := by
  rw [joins, alone.1, alone.2, Bool.and_false, Bool.and_false, Bool.or_self]

/-- Blanks stand alone. -/
theorem standsAlone_of_isBlank {c : Char} (blank : isBlank c = true) : StandsAlone c := by
  have table : ∀ range ∈ blanks, ∀ point ∈ List.range' range.1 (range.2 + 1 - range.1),
      StandsAlone (Char.ofNat point) := by
    decide +kernel
  obtain ⟨range, member, low, high⟩ := exists_of_inRanges blank
  have within : c.toNat ∈ List.range' range.1 (range.2 + 1 - range.1) := by
    rw [List.mem_range'_1]
    omega
  have alone := table range member c.toNat within
  rwa [Char.ofNat_toNat] at alone

/-! ## Pieces of a text -/

variable {symbols : Symbols}

/-- **Two pieces of a text that do not join are read one after the other.** -/
theorem found_append_eq {front back : List Char}
    (apart : ∀ x ∈ front.getLast?, ∀ y ∈ back.head?, joins x y = false) :
    found symbols (front ++ back) =
      found symbols front >>= fun first => (found symbols back).map (first ++ ·) := by
  simp only [found, runs, List.splitBy_append apart, List.mapM_append]
  cases (front.splitBy joins).mapM (termsOfRun symbols) with
  | error fault => rfl
  | ok before =>
      cases (back.splitBy joins).mapM (termsOfRun symbols) with
      | error fault => rfl
      | ok behind => exact congrArg Except.ok List.flatten_append

theorem found_append {front back : List Char} {first second : List Term}
    (apart : ∀ x ∈ front.getLast?, ∀ y ∈ back.head?, joins x y = false)
    (inFront : found symbols front = .ok first) (inBack : found symbols back = .ok second) :
    found symbols (front ++ back) = .ok (first ++ second) := by
  rw [found_append_eq apart, inFront, inBack]
  rfl

/-- A run is read by itself. -/
theorem found_run {run : List Char} (nonempty : run ≠ [])
    (isRun : run.IsChain fun x y => joins x y = true) :
    found symbols run = termsOfRun symbols run := by
  rw [found, runs, List.splitBy_of_isChain nonempty isRun, List.mapM_cons, List.mapM_nil]
  cases termsOfRun symbols run with
  | error fault => rfl
  | ok terms => exact congrArg Except.ok (List.append_nil terms)

theorem found_blank {c : Char} (blank : isBlank c = true) : found symbols [c] = .ok [] := by
  rw [found_run (List.cons_ne_nil c []) (List.isChain_singleton c), termsOfRun,
    (standsAlone_of_isBlank blank).1, blank]
  rfl

/-! ## Terms with blanks between them -/

/-- A term that is written as one run and read as it is. -/
structure Lexeme (symbols : Symbols) (term : Term) : Prop where
  nonempty : term.toList ≠ []
  isRun : term.toList.IsChain fun x y => joins x y = true
  read : termsOfRun symbols term.toList = .ok [term]

/-- The texts that write the terms one after the other, with any blanks around them. -/
inductive Spaced : List Term → List Char → Prop
  | done : Spaced [] []
  | blank {c : Char} {terms : List Term} {text : List Char} :
      isBlank c = true → Spaced terms text → Spaced terms (c :: text)
  | term {term : Term} {terms : List Term} {text : List Char} :
      Spaced terms text → Spaced (term :: terms) (term.toList ++ text)

/-- Two terms that stay apart when they are written side by side. -/
def Apart (left right : Term) : Prop :=
  ∀ x ∈ left.toList.getLast?, ∀ y ∈ right.toList.head?, joins x y = false

/-- A term of one character that stands alone and is not blank. -/
def Mark (term : Term) : Prop :=
  ∃ c, term.toList = [c] ∧ StandsAlone c ∧ isBlank c = false

theorem Mark.lexeme {term : Term} (mark : Mark term) : Lexeme symbols term := by
  obtain ⟨c, single, ⟨noNumeral, noLetter⟩, solid⟩ := mark
  have same : String.ofList [c] = term := by rw [← single, String.ofList_toList]
  refine ⟨?_, ?_, ?_⟩ <;> rw [single]
  · exact List.cons_ne_nil c []
  · exact List.isChain_singleton c
  · rw [termsOfRun, noNumeral, solid, noLetter, same]
    rfl

theorem apart_of_mark_left {left right : Term} (mark : Mark left) : Apart left right := by
  obtain ⟨c, single, alone, _⟩ := mark
  rw [Apart, single]
  rintro _ ⟨⟩ y _
  exact joins_of_standsAlone_left alone

theorem apart_of_mark_right {left right : Term} (mark : Mark right) : Apart left right := by
  obtain ⟨c, single, alone, _⟩ := mark
  rw [Apart, single]
  rintro x _ _ ⟨⟩
  exact joins_of_standsAlone_right alone

/-- A text with blanks begins with a blank or with the first term. -/
theorem Spaced.begins {terms : List Term} {text : List Char} (spaced : Spaced terms text)
    (lexemes : ∀ term ∈ terms, Lexeme symbols term) :
    ∀ y ∈ text.head?, isBlank y = true ∨ ∃ term ∈ terms.head?, y ∈ term.toList.head? := by
  intro y first
  cases spaced with
  | done => cases first
  | blank isBlank _ =>
      cases first
      exact .inl isBlank
  | @term term _ _ _ =>
      rw [List.head?_append_of_ne_nil _ (lexemes term List.mem_cons_self).nonempty] at first
      exact .inr ⟨term, rfl, first⟩

/-- The texts that write the terms one after the other, where no term joins what follows it. -/
inductive LaidOut : List Term → List Char → Prop
  | done : LaidOut [] []
  | blank {c : Char} {terms : List Term} {text : List Char} :
      isBlank c = true → LaidOut terms text → LaidOut terms (c :: text)
  | term {term : Term} {terms : List Term} {text : List Char} :
      (∀ x ∈ term.toList.getLast?, ∀ y ∈ text.head?, joins x y = false) →
        LaidOut terms text → LaidOut (term :: terms) (term.toList ++ text)

/-- Terms that stay apart join nothing, whatever the blanks between them. -/
theorem Spaced.laidOut {terms : List Term} {text : List Char} (spaced : Spaced terms text)
    (lexemes : ∀ term ∈ terms, Lexeme symbols term) (apart : terms.IsChain Apart) :
    LaidOut terms text := by
  induction spaced with
  | done => exact .done
  | blank isBlank _ ih => exact .blank isBlank (ih lexemes apart)
  | @term term rest text spaced ih =>
      have later : ∀ other ∈ rest, Lexeme symbols other :=
        fun other member => lexemes other (List.mem_cons_of_mem term member)
      rw [List.isChain_cons] at apart
      refine .term (fun x last y first => ?_) (ih later apart.2)
      rcases spaced.begins later y first with isBlank | ⟨next, isNext, first⟩
      · exact joins_of_standsAlone_right (standsAlone_of_isBlank isBlank)
      · exact apart.1 next isNext x last y first

/-- **Terms that join nothing are found again.** -/
theorem LaidOut.found {terms : List Term} {text : List Char} (laidOut : LaidOut terms text)
    (lexemes : ∀ term ∈ terms, Lexeme symbols term) : found symbols text = .ok terms := by
  induction laidOut with
  | done => rfl
  | @blank c _ text isBlank _ ih =>
      have apartFromRest : ∀ x ∈ [c].getLast?, ∀ y ∈ text.head?, joins x y = false := by
        rintro x ⟨⟩ y _
        exact joins_of_standsAlone_left (standsAlone_of_isBlank isBlank)
      exact found_append apartFromRest (found_blank isBlank) (ih lexemes)
  | @term term rest text apart _ ih =>
      obtain ⟨nonempty, isRun, read⟩ := lexemes term List.mem_cons_self
      have later : ∀ other ∈ rest, Lexeme symbols other :=
        fun other member => lexemes other (List.mem_cons_of_mem term member)
      exact found_append apart ((found_run nonempty isRun).trans read) (ih later)

end Lexer

end InfixFormula
