import InfixFormula.Proofs.Term.Lexing
import InfixFormula.Proofs.Term.Resolved
import Mathlib.Data.List.Chain

/-!
# Products that are left out

Where products have been put in, none is left out (`isChain_insertProducts`), so putting products in
once more changes nothing (`insertProducts_of_isChain`).

A list of terms is written in full when it starts like a factor, ends like one, and has neighbours
of five sorts only (`Written`, `Adjoins`). A product is left out between the end of a factor and the
start of one (`isProduct_iff`), and no two neighbours of a list that is written in full are these.
Leaving out a times sign makes such a pair: it stands behind the end of a factor and in front of the
start of one, and no two times signs are neighbours, so each that is left out makes a pair of its
own. Therefore any of the times signs of a list that is written in full may be left out, and putting
products in gives the list again (`Written.insertProducts_of_omits`).
-/

set_option autoImplicit false

namespace InfixFormula.Lexer

open InfixFormula.Bracket

/-! ## Ends and starts of factors -/

/-- A term that may end a factor. -/
def EndsFactor (symbols : Symbols) (term : Term) : Prop :=
  term.isNumeral = true ∨ symbols.isVariable term = true ∨ term = Term.closing

/-- A term that may start a factor. -/
def StartsFactor (symbols : Symbols) (term : Term) : Prop :=
  term = Term.opening ∨ term.isNumeral = true ∨ symbols.isVariable term = true ∨
    symbols.isFunction term = true

/-- A product is left out exactly between the end of a factor and the start of one. -/
theorem isProduct_iff {symbols : Symbols} {left right : Term} :
    isProduct symbols left right = true ↔
      EndsFactor symbols left ∧ StartsFactor symbols right := by
  simp only [isProduct, EndsFactor, StartsFactor, Bool.and_eq_true, Bool.or_eq_true, beq_iff_eq,
    or_assoc]

section Regular

variable {symbols : Symbols} (regular : symbols.Regular) {term : Term}
include regular

theorem not_endsFactor_operator (member : term ∈ symbols.operators) :
    ¬ EndsFactor symbols term := by
  rintro (numeral | named | rfl)
  · obtain ⟨_, read⟩ := Option.isSome_iff_exists.mp numeral
    exact regular.not_operator_of_numeral read member
  · rw [regular.isVariable_operator member] at named
    cases named
  · cases regular.weight_operator member

theorem not_startsFactor_operator (member : term ∈ symbols.operators) :
    ¬ StartsFactor symbols term := by
  rintro (rfl | numeral | named | named)
  · cases regular.weight_operator member
  · obtain ⟨_, read⟩ := Option.isSome_iff_exists.mp numeral
    exact regular.not_operator_of_numeral read member
  · rw [regular.isVariable_operator member] at named
    cases named
  · rw [regular.isFunction_operator member] at named
    cases named

theorem not_endsFactor_function (named : symbols.isFunction term = true) :
    ¬ EndsFactor symbols term := by
  rintro (numeral | isVariable | rfl)
  · obtain ⟨_, read⟩ := Option.isSome_iff_exists.mp numeral
    rw [regular.isFunction_numeral read] at named
    cases named
  · rw [regular.isVariable_function named] at isVariable
    cases isVariable
  · cases regular.weight_function named

theorem not_endsFactor_opening : ¬ EndsFactor symbols Term.opening := by
  rintro (numeral | named | same)
  · cases numeral
  · rw [regular.isVariable_opening] at named
    cases named
  · exact absurd same (by decide)

theorem not_startsFactor_closing : ¬ StartsFactor symbols Term.closing := by
  rintro (same | numeral | named | named)
  · exact absurd same (by decide)
  · cases numeral
  · rw [regular.isVariable_closing] at named
    cases named
  · cases regular.weight_function named

end Regular

/-! ## What is put in -/

theorem head?_insertProducts (symbols : Symbols) (terms : List Term) :
    (insertProducts symbols terms).head? = terms.head? := by
  fun_cases insertProducts symbols terms <;> rfl

/-- Nothing is put in but times signs. -/
theorem mem_insertProducts {symbols : Symbols} {terms : List Term} {term : Term}
    (member : term ∈ insertProducts symbols terms) : term ∈ terms ∨ term = Term.times := by
  fun_induction insertProducts symbols terms with
  | case1 left right rest product ih =>
      rcases List.mem_cons.mp member with rfl | member
      · exact .inl List.mem_cons_self
      rcases List.mem_cons.mp member with rfl | member
      · exact .inr rfl
      · exact (ih member).imp_left (List.mem_cons_of_mem left)
  | case2 left right rest noProduct ih =>
      rcases List.mem_cons.mp member with rfl | member
      · exact .inl List.mem_cons_self
      · exact (ih member).imp_left (List.mem_cons_of_mem left)
  | case3 terms => exact .inl member

/-- Putting products in keeps all terms. -/
theorem mem_insertProducts_of_mem {symbols : Symbols} {terms : List Term} {term : Term}
    (member : term ∈ terms) : term ∈ insertProducts symbols terms := by
  fun_induction insertProducts symbols terms with
  | case1 left right rest product ih =>
      rcases List.mem_cons.mp member with rfl | member
      · exact List.mem_cons_self
      · exact List.mem_cons_of_mem _ (List.mem_cons_of_mem _ (ih member))
  | case2 left right rest noProduct ih =>
      rcases List.mem_cons.mp member with rfl | member
      · exact List.mem_cons_self
      · exact List.mem_cons_of_mem _ (ih member)
  | case3 terms => exact member

/-- **Where products have been put in, none is left out.** -/
theorem isChain_insertProducts {symbols : Symbols} (regular : symbols.Regular)
    (multiplies : Term.times ∈ symbols.operators) (terms : List Term) :
    (insertProducts symbols terms).IsChain fun left right =>
      isProduct symbols left right = false := by
  fun_induction insertProducts symbols terms with
  | case1 left right rest product ih =>
      have behind : ∀ next ∈ (insertProducts symbols (right :: rest)).head?,
          isProduct symbols Term.times next = false := by
        intro next _
        rw [← Bool.not_eq_true, isProduct_iff]
        exact fun both => not_endsFactor_operator regular multiplies both.1
      have front : isProduct symbols left Term.times = false := by
        rw [← Bool.not_eq_true, isProduct_iff]
        exact fun both => not_startsFactor_operator regular multiplies both.2
      exact List.isChain_cons_cons.mpr ⟨front, List.isChain_cons.mpr ⟨behind, ih⟩⟩
  | case2 left right rest noProduct ih =>
      refine List.isChain_cons.mpr ⟨fun next isNext => ?_, ih⟩
      rw [head?_insertProducts] at isNext
      cases isNext
      exact Bool.eq_false_iff.mpr noProduct
  | case3 terms short =>
      rcases terms with _ | ⟨left, _ | ⟨right, rest⟩⟩
      · exact List.isChain_nil
      · exact List.isChain_singleton left
      · exact absurd rfl (short left right rest)

/-- Where no product is left out, none is put in. -/
theorem insertProducts_of_isChain {symbols : Symbols} {terms : List Term}
    (complete : terms.IsChain fun left right => isProduct symbols left right = false) :
    insertProducts symbols terms = terms := by
  fun_induction insertProducts symbols terms with
  | case1 left right rest product ih =>
      rw [List.isChain_cons_cons, product] at complete
      cases complete.1
  | case2 left right rest noProduct ih =>
      rw [List.isChain_cons_cons] at complete
      rw [ih complete.2]
  | case3 terms short => rfl

/-! ## Lists that are written in full -/

/-- Two terms that may be neighbours in a list that is written in full. -/
inductive Adjoins (symbols : Symbols) : Term → Term → Prop
  | beforeOperator {left operator : Term} : EndsFactor symbols left →
      operator ∈ symbols.operators → Adjoins symbols left operator
  | behindOperator {operator right : Term} : operator ∈ symbols.operators →
      StartsFactor symbols right → Adjoins symbols operator right
  | opens {right : Term} : StartsFactor symbols right → Adjoins symbols Term.opening right
  | closes {left : Term} : EndsFactor symbols left → Adjoins symbols left Term.closing
  | calls {function : Term} : symbols.isFunction function = true →
      Adjoins symbols function Term.opening

/-- A list of terms that is written in full. -/
structure Written (symbols : Symbols) (terms : List Term) : Prop where
  first : ∃ term ∈ terms.head?, StartsFactor symbols term
  last : ∃ term ∈ terms.getLast?, EndsFactor symbols term
  neighbours : terms.IsChain (Adjoins symbols)

namespace Written

variable {symbols : Symbols} {terms : List Term}

theorem startsFactor (written : Written symbols terms) :
    ∀ term ∈ terms.head?, StartsFactor symbols term := by
  obtain ⟨first, isFirst, starts⟩ := written.first
  intro term isHead
  rwa [Option.mem_unique isHead isFirst]

theorem endsFactor (written : Written symbols terms) :
    ∀ term ∈ terms.getLast?, EndsFactor symbols term := by
  obtain ⟨last, isLast, ends⟩ := written.last
  intro term isEnd
  rwa [Option.mem_unique isEnd isLast]

/-- A single term that is a factor. -/
theorem single {term : Term} (starts : StartsFactor symbols term)
    (ends : EndsFactor symbols term) : Written symbols [term] where
  first := ⟨term, rfl, starts⟩
  last := ⟨term, rfl, ends⟩
  neighbours := List.isChain_singleton term

/-- A pair of brackets. -/
theorem bracketed (written : Written symbols terms) : Written symbols (bracketed terms) where
  first := ⟨Term.opening, rfl, .inl rfl⟩
  last := by
    refine ⟨Term.closing, ?_, .inr (.inr rfl)⟩
    rw [Bracket.bracketed, ← List.cons_append, Option.mem_def, List.getLast?_concat]
  neighbours := by
    rw [Bracket.bracketed, List.isChain_cons, List.isChain_append]
    refine ⟨fun next isNext => ?_, written.neighbours, List.isChain_singleton _, ?_⟩
    · obtain ⟨first, isFirst, starts⟩ := written.first
      rw [List.head?_append, isFirst] at isNext
      cases isNext
      exact .opens starts
    · rintro left isLast _ ⟨⟩
      exact .closes (written.endsFactor left isLast)

/-- A call, the argument of which is in brackets. -/
theorem calling {function : Term} (named : symbols.isFunction function = true)
    (written : Written symbols terms) :
    Written symbols (function :: Bracket.bracketed terms) where
  first := ⟨function, rfl, .inr (.inr (.inr named))⟩
  last := by
    obtain ⟨last, isLast, ends⟩ := written.bracketed.last
    exact ⟨last, by rw [Bracket.bracketed, List.getLast?_cons_cons]; exact isLast, ends⟩
  neighbours := by
    rw [List.isChain_cons]
    refine ⟨?_, written.bracketed.neighbours⟩
    rintro _ ⟨⟩
    exact .calls named

/-- An operator between two lists. -/
theorem joined {before after : List Term} {operator : Term}
    (member : operator ∈ symbols.operators) (left : Written symbols before)
    (right : Written symbols after) : Written symbols (before ++ operator :: after) where
  first := by
    obtain ⟨first, isFirst, starts⟩ := left.first
    exact ⟨first, by rw [List.head?_append, isFirst]; rfl, starts⟩
  last := by
    obtain ⟨last, isLast, ends⟩ := right.last
    refine ⟨last, ?_, ends⟩
    rw [List.getLast?_append, List.getLast?_cons, isLast]
    rfl
  neighbours := by
    rw [List.isChain_append, List.isChain_cons]
    refine ⟨left.neighbours, ⟨fun next isNext => ?_, right.neighbours⟩, ?_⟩
    · exact .behindOperator member (right.startsFactor next isNext)
    · rintro last isLast _ ⟨⟩
      exact .beforeOperator (left.endsFactor last isLast) member

end Written

section Regular

variable {symbols : Symbols} (regular : symbols.Regular) {left right : Term}
include regular

/-- No product is left out between neighbours in a list that is written in full. -/
theorem Adjoins.isProduct_eq_false (adjoins : Adjoins symbols left right) :
    isProduct symbols left right = false := by
  rw [← Bool.not_eq_true, isProduct_iff]
  rintro ⟨ends, starts⟩
  cases adjoins with
  | beforeOperator _ member => exact not_startsFactor_operator regular member starts
  | behindOperator member _ => exact not_endsFactor_operator regular member ends
  | opens _ => exact not_endsFactor_opening regular ends
  | closes _ => exact not_startsFactor_closing regular starts
  | calls named => exact not_endsFactor_function regular named ends

/-- In front of an operator a factor ends. -/
theorem Adjoins.endsFactor (adjoins : Adjoins symbols left right)
    (member : right ∈ symbols.operators) : EndsFactor symbols left := by
  cases adjoins with
  | beforeOperator ends _ => exact ends
  | behindOperator _ starts => exact absurd starts (not_startsFactor_operator regular member)
  | opens starts => exact absurd starts (not_startsFactor_operator regular member)
  | closes _ => cases regular.weight_operator member
  | calls _ => cases regular.weight_operator member

/-- Behind an operator a factor starts. -/
theorem Adjoins.startsFactor (adjoins : Adjoins symbols left right)
    (member : left ∈ symbols.operators) : StartsFactor symbols right := by
  cases adjoins with
  | beforeOperator ends _ => exact absurd ends (not_endsFactor_operator regular member)
  | behindOperator _ starts => exact starts
  | opens starts => exact starts
  | closes ends => exact absurd ends (not_endsFactor_operator regular member)
  | calls named => exact .inl rfl

end Regular

/-! ## Leaving products out -/

/-- The first list is the second one without some of its times signs. -/
inductive Omits : List Term → List Term → Prop
  | nil : Omits [] []
  | keep {term : Term} {short whole : List Term} :
      Omits short whole → Omits (term :: short) (term :: whole)
  | drop {short whole : List Term} : Omits short whole → Omits short (Term.times :: whole)

theorem Omits.refl (terms : List Term) : Omits terms terms := by
  induction terms with
  | nil => exact .nil
  | cons term terms ih => exact .keep ih

section Regular

variable {symbols : Symbols} (regular : symbols.Regular)
  (multiplies : Term.times ∈ symbols.operators)
include regular multiplies

/-- Behind a term that is kept, the products that were left out are put back. What stands behind a
times sign starts a factor, so it is always kept. -/
theorem insertProducts_cons_of_omits {short whole : List Term} (omits : Omits short whole) :
    ∀ left : Term, (left :: whole).IsChain (Adjoins symbols) →
      (∃ term ∈ (left :: whole).getLast?, EndsFactor symbols term) →
        insertProducts symbols (left :: short) = left :: whole := by
  induction omits with
  | nil => exact fun _ _ _ => rfl
  | @keep term short whole omits ih =>
      intro left neighbours last
      obtain ⟨adjoins, neighbours⟩ := List.isChain_cons_cons.mp neighbours
      rw [List.getLast?_cons_cons] at last
      rw [insertProducts, adjoins.isProduct_eq_false regular, if_neg Bool.false_ne_true,
        ih term neighbours last]
  | @drop short whole omits ih =>
      intro left neighbours last
      obtain ⟨adjoins, neighbours⟩ := List.isChain_cons_cons.mp neighbours
      rw [List.getLast?_cons_cons] at last
      have restored := ih Term.times neighbours last
      cases omits with
      | nil =>
          obtain ⟨_, ⟨⟩, ends⟩ := last
          exact absurd ends (not_endsFactor_operator regular multiplies)
      | drop _ =>
          have starts := (List.isChain_cons_cons.mp neighbours).1.startsFactor regular multiplies
          exact absurd starts (not_startsFactor_operator regular multiplies)
      | @keep next short whole _ =>
          have behind := (List.isChain_cons_cons.mp neighbours).1
          have product : isProduct symbols left next = true := isProduct_iff.mpr
            ⟨adjoins.endsFactor regular multiplies, behind.startsFactor regular multiplies⟩
          rw [insertProducts, behind.isProduct_eq_false regular,
            if_neg Bool.false_ne_true] at restored
          rw [insertProducts, if_pos product, (List.cons.inj restored).2]

/-- **Products that are left out of a list are put back.** -/
theorem Written.insertProducts_of_omits {short whole : List Term} (written : Written symbols whole)
    (omits : Omits short whole) : insertProducts symbols short = whole := by
  cases omits with
  | nil => rfl
  | keep omits =>
      exact insertProducts_cons_of_omits regular multiplies omits _ written.neighbours written.last
  | drop _ =>
      obtain ⟨_, ⟨⟩, starts⟩ := written.first
      exact absurd starts (not_startsFactor_operator regular multiplies)

end Regular

end InfixFormula.Lexer
