import InfixFormula.Proofs.Grammar.Derivation
import InfixFormula.Proofs.Number.PlainDecimal
import InfixFormula.Proofs.Term.Walk

/-!
# Formulas in full brackets

A draft is a formula as it is written out in full: its numbers are plain decimals, and brackets
stand around every operation and every argument (`Draft.terms`). Next to each of its terms there is
a bracket or an operator. So neighbours never run together and never leave a product out, and
blanks make no difference (`Draft.terms_of_spaced`). The terms of a draft are a unit of the grammar
with the formula of the draft (`Draft.derives`).
-/

set_option autoImplicit false

namespace InfixFormula

open InfixFormula.Bracket

/-- A formula whose numbers are plain decimals. -/
inductive Draft where
  | number (decimal : PlainDecimal)
  | reference (name : Term) (isVariable : ({} : Symbols).isVariable name = true)
  | binary (operator : Operator) (left right : Draft)
  | call (function : Builtin) (argument : Draft)

namespace Draft

/-- The formula of a draft, where angles are in a unit. -/
def formula (unit : AngleUnit) : Draft → Formula
  | number decimal => .number decimal.value
  | reference name _ => .reference name
  | binary operator left right => .binary operator (left.formula unit) (right.formula unit)
  | call function argument => .call function unit (argument.formula unit)

/-- The terms of a draft, with brackets around every operation and every argument. -/
def terms : Draft → List Term
  | number decimal => [decimal.text]
  | reference name _ => [name]
  | binary operator left right => bracketed (left.terms ++ operator.symbol :: right.terms)
  | call function argument => function.name :: bracketed argument.terms

end Draft

namespace Lexer

/-! ## The terms of a draft one by one -/

theorem mark_opening : Mark Term.opening :=
  ⟨'(', rfl, by decide, rfl⟩

theorem mark_closing : Mark Term.closing :=
  ⟨')', rfl, by decide, rfl⟩

theorem mark_symbol (operator : Operator) : Mark operator.symbol := by
  cases operator <;> exact ⟨_, rfl, by decide, rfl⟩

theorem lexeme_name (function : Builtin) : Lexeme {} function.name := by
  cases function <;> exact ⟨by decide, by decide, rfl⟩

theorem lexeme_variable {name : Term} (isVariable : ({} : Symbols).isVariable name = true) :
    Lexeme {} name := by
  rcases List.mem_pair.mp (Symbols.isVariable_iff.mp isVariable) with rfl | rfl <;>
    exact ⟨by decide, by decide, rfl⟩

/-- The characters of a plain decimal have no second point. -/
theorem numeral_chars (decimal : PlainDecimal) : numeral decimal.chars = .ok decimal.text := by
  have isDigit := @decimal.isDigit_of_mem
  have noPoint {c : Char} (digit : c.isDigit = true) : decide (c ≠ '.') = true := by
    rw [decide_eq_true_eq]
    rintro rfl
    cases digit
  rw [numeral, if_neg]
  · rfl
  rw [PlainDecimal.chars]
  split
  next =>
    have noRest : decimal.whole.dropWhile (· ≠ '.') = [] :=
      List.dropWhile_eq_nil_iff.mpr fun c member =>
        noPoint (isDigit (List.mem_append_left _ member))
    rw [noRest]
    exact List.not_mem_nil
  next fraction point =>
    rw [point] at isDigit
    rw [List.dropWhile_append_of_pos fun c member =>
        noPoint (isDigit (List.mem_append_left _ member)),
      List.dropWhile_cons_of_neg (by decide), List.drop_one, List.tail_cons]
    intro member
    exact absurd (noPoint (isDigit (List.mem_append_right _ member))) (by decide)

theorem lexeme_decimal (decimal : PlainDecimal) : Lexeme {} decimal.text := by
  have table : Numeral.plainChars.all isNumeric = true := by decide +kernel
  have numeric : ∀ c ∈ decimal.chars, isNumeric c = true :=
    fun c member => List.all_eq_true.mp table c (decimal.mem_plainChars_of_mem member)
  have joined : decimal.chars.IsChain fun x y => joins x y = true := by
    refine (List.pairwise_of_forall_mem_list fun x memberX y memberY => ?_).isChain
    rw [joins, numeric x memberX, numeric y memberY]
    rfl
  refine ⟨?_, ?_, ?_⟩ <;> rw [PlainDecimal.text, String.toList_ofList]
  · exact decimal.chars_ne_nil
  · exact joined
  · obtain ⟨c, rest, begins⟩ := List.exists_cons_of_ne_nil decimal.chars_ne_nil
    have first : isNumeric c = true := numeric c (begins ▸ List.mem_cons_self)
    rw [begins, termsOfRun, if_pos first, ← begins, numeral_chars]
    rfl

/-! ## Neighbours in a draft -/

theorem separate_opening (right : Term) : Separate {} Term.opening right :=
  ⟨apart_of_mark_left mark_opening, rfl⟩

theorem separate_closing (left : Term) : Separate {} left Term.closing :=
  ⟨apart_of_mark_right mark_closing, Bool.and_false _⟩

theorem separate_symbol_left (operator : Operator) (right : Term) :
    Separate {} operator.symbol right := by
  refine ⟨apart_of_mark_left (mark_symbol operator), ?_⟩
  cases operator <;> rfl

theorem separate_symbol_right (left : Term) (operator : Operator) :
    Separate {} left operator.symbol := by
  refine ⟨apart_of_mark_right (mark_symbol operator), ?_⟩
  cases operator <;> exact Bool.and_false _

theorem separate_name_opening (function : Builtin) : Separate {} function.name Term.opening := by
  refine ⟨apart_of_mark_right mark_opening, ?_⟩
  cases function <;> rfl

theorem separate_bracketed {inner : List Term} (separate : inner.IsChain (Separate {})) :
    (bracketed inner).IsChain (Separate {}) := by
  rw [bracketed, List.isChain_cons, List.isChain_append]
  refine ⟨fun right _ => separate_opening right, separate, List.isChain_singleton _, ?_⟩
  rintro left _ right ⟨⟩
  exact separate_closing left

end Lexer

namespace Draft

open Lexer

theorem lexeme_of_mem (draft : Draft) : ∀ term ∈ draft.terms, Lexeme {} term := by
  have lexeme_bracketed {inner : List Term} (lexemes : ∀ term ∈ inner, Lexeme {} term) :
      ∀ term ∈ bracketed inner, Lexeme {} term := by
    intro term member
    rcases List.mem_cons.mp member with rfl | member
    · exact mark_opening.lexeme
    rcases List.mem_append.mp member with member | member
    · exact lexemes term member
    · rw [List.mem_singleton.mp member]
      exact mark_closing.lexeme
  induction draft with
  | number decimal =>
      intro term member
      rw [List.mem_singleton.mp member]
      exact lexeme_decimal decimal
  | reference name isVariable =>
      intro term member
      rw [List.mem_singleton.mp member]
      exact lexeme_variable isVariable
  | binary operator left right inLeft inRight =>
      refine lexeme_bracketed fun term member => ?_
      rcases List.mem_append.mp member with member | member
      · exact inLeft term member
      rcases List.mem_cons.mp member with rfl | member
      · exact (mark_symbol operator).lexeme
      · exact inRight term member
  | call function argument ih =>
      intro term member
      rcases List.mem_cons.mp member with rfl | member
      · exact lexeme_name function
      · exact lexeme_bracketed ih term member

/-- Neighbours in a draft are separate, since one of them is a bracket or an operator. -/
theorem separate_terms (draft : Draft) : draft.terms.IsChain (Separate {}) := by
  induction draft with
  | number decimal => exact List.isChain_singleton _
  | reference name isVariable => exact List.isChain_singleton _
  | binary operator left right inLeft inRight =>
      refine separate_bracketed ?_
      rw [List.isChain_append, List.isChain_cons]
      refine ⟨inLeft, ⟨fun term _ => separate_symbol_left operator term, inRight⟩, ?_⟩
      rintro term _ _ ⟨⟩
      exact separate_symbol_right term operator
  | call function argument ih =>
      rw [terms, List.isChain_cons]
      refine ⟨?_, separate_bracketed ih⟩
      rintro _ ⟨⟩
      exact separate_name_opening function

/-- **A draft is read as its terms**, with any blanks between them. -/
theorem terms_of_spaced (draft : Draft) {text : String} (spaced : Spaced draft.terms text.toList) :
    Lexer.terms {} text = .ok draft.terms :=
  Lexer.terms_of_spaced spaced draft.lexeme_of_mem draft.separate_terms

/-! ## The formula of a draft -/

/-- **The terms of a draft are a unit of the grammar**, with the formula of the draft. -/
theorem derives (draft : Draft) (unit : AngleUnit) :
    Derives {} unit [] draft.terms (draft.formula unit) := by
  induction draft with
  | number decimal =>
      have noNumerals : ∀ name ∈ ({} : Symbols).variableNames, Numeral.read? name = none := by
        decide
      refine .number ?_ decimal.read?_text
      rw [← Bool.not_eq_true, Symbols.isVariable_iff]
      intro named
      have read := noNumerals decimal.text named
      rw [decimal.read?_text] at read
      cases read
  | reference name isVariable => exact .reference isVariable
  | binary operator left right inLeft inRight =>
      have member : operator.symbol ∈ ({} : Symbols).operators := by
        cases operator <;> decide
      obtain ⟨weaker, stronger, split⟩ := List.append_of_mem member
      have chain := Derives.chain (inLeft.of_unit (operator.symbol :: stronger))
        (inRight.of_unit stronger)
      have whole := chain.widen weaker
      rw [← split] at whole
      exact .brackets whole
  | call function argument ih =>
      have named : ({} : Symbols).isFunction function.name = true := by
        cases function <;> rfl
      exact .call named (ih.of_unit _)

end Draft

end InfixFormula
