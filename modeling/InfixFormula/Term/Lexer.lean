import InfixFormula.Fault.Basic
import InfixFormula.Text.Blank
import InfixFormula.Text.Digit
import InfixFormula.Text.Letter

/-!
# Reading terms

A text is read from left to right with one place in it (`walk`). The character there says what
begins: a digit or a point begins a numeral, which takes in the digits and points behind it
(`takeNumeral`), a letter begins a word, which takes in the letters behind it, a blank is passed
over, and every other character is a term of its own. A word that is a constant becomes its value,
and a word made of variables only becomes one term per variable (`splitWord`).

Between two adjacent factors the operator may be left out in writing, and it is put back in the
end (`insertProducts`).
-/

set_option autoImplicit false

namespace InfixFormula.Lexer

open InfixFormula.Text

/-! ## Numerals -/

/-- Whether a character belongs to numerals. -/
def isNumeric (c : Char) : Bool :=
  isDigit c || c = '.'

/-- Reads on in a numeral from what has been read of it, which has had a point or not. The result is
the numeral with the text behind it. -/
def takeNumeral (start : List Char) (pointed : Bool) :
    List Char → Except Fault (Term × List Char)
  | [] => .ok (String.ofList start, [])
  | c :: rest =>
      if isNumeric c then
        if c = '.' then
          if pointed then .error (.secondPoint (String.ofList start))
          else takeNumeral (start ++ [c]) true rest
        else takeNumeral (start ++ [c]) pointed rest
      else .ok (String.ofList start, c :: rest)

/-- No more text is behind a numeral than behind its beginning. -/
theorem length_of_takeNumeral {start rest after : List Char} {pointed : Bool} {term : Term}
    (taken : takeNumeral start pointed rest = .ok (term, after)) : after.length ≤ rest.length := by
  fun_induction takeNumeral start pointed rest with
  | case1 | case5 =>
      cases taken
      exact Nat.le_refl _
  | case2 => cases taken
  | case3 _ _ _ _ _ ih | case4 _ _ _ _ _ _ ih => exact Nat.le_succ_of_le (ih taken)

/-! ## Words -/

/-- The words for constants, with the values as numerals. -/
def constants : List (Term × Term) :=
  [("π", "3.141592653589793"), ("pi", "3.141592653589793"), ("e", "2.718281828459045")]

/-- The terms of a word: the numeral of a constant, the name of a function or a variable, one
variable per letter, or else the word as it is. -/
def splitWord (symbols : Symbols) (word : Term) : List Term :=
  match constants.lookup word with
  | some numeral => [numeral]
  | none =>
      if symbols.isFunction word || symbols.isVariable word then [word]
      else
        let letters := word.toList.map String.singleton
        if letters.all symbols.isVariable then letters else [word]

/-! ## The walk -/

/-- The terms of a text before products are put in, read by a walk from its beginning. -/
def walk (symbols : Symbols) : List Char → Except Fault (List Term)
  | [] => .ok []
  | c :: rest =>
      if isNumeric c then
        match _ : takeNumeral [c] (c = '.') rest with
        | .error fault => .error fault
        | .ok (term, after) => (walk symbols after).map (term :: ·)
      else if isBlank c then walk symbols rest
      else if isLetter c then
        (walk symbols (rest.dropWhile isLetter)).map
          (splitWord symbols (String.ofList (c :: rest.takeWhile isLetter)) ++ ·)
      else (walk symbols rest).map (String.singleton c :: ·)
  termination_by text => text.length
  decreasing_by
    · exact Nat.lt_succ_of_le (length_of_takeNumeral ‹_›)
    · exact Nat.lt_succ_self _
    · exact Nat.lt_succ_of_le (List.dropWhile_sublist isLetter).length_le
    · exact Nat.lt_succ_self _

/-! ## Products -/

/-- Whether a product is left out between two terms: the first may end a factor and the second
may start one. -/
def isProduct (symbols : Symbols) (left right : Term) : Bool :=
  (left.isNumeral || symbols.isVariable left || left == Term.closing) &&
    (right == Term.opening || right.isNumeral || symbols.isVariable right ||
      symbols.isFunction right)

/-- The terms with the products that were left out. -/
def insertProducts (symbols : Symbols) : List Term → List Term
  | left :: right :: rest =>
      if isProduct symbols left right then
        left :: Term.times :: insertProducts symbols (right :: rest)
      else left :: insertProducts symbols (right :: rest)
  | terms => terms

/-! ## Terms -/

/-- The terms of a text. -/
def terms (symbols : Symbols) (text : String) : Except Fault (List Term) :=
  (walk symbols text.toList).map (insertProducts symbols)

end InfixFormula.Lexer
