import InfixFormula.Proofs.Formula.Levels
import InfixFormula.Proofs.Term.Validity

/-!
# The grammar of formulas

The grammar has one nonterminal for each suffix of the order of precedence: the lists of terms in
which only the operators of the suffix stand outside brackets (`Derives`). Below the weakest
operator of the suffix a list is a chain, which groups from left to right; below no operator it is
a variable, a numeral, a pair of brackets or a call. A derivation determines a formula, which does
not show brackets.

What a derivation says about the brackets, operators and calls of its list is collected in
`Spelled`; it is what the validation and the levels of the builder look at. A list in which the
weakest operator does not stand outside brackets can be derived without it
(`Derives.drop_absent`), and this is how the operands of a split get their place in the grammar.
-/

set_option autoImplicit false

namespace InfixFormula

open InfixFormula.Bracket Validation

/-- The formulas of a list of terms by the grammar with the operators of a suffix of the order of
precedence, the weakest first. -/
inductive Derives (symbols : Symbols) (unit : AngleUnit) :
    List Term → List Term → Formula → Prop
  | tighter {weakest : Term} {operators terms : List Term} {formula : Formula} :
      Derives symbols unit operators terms formula →
      Derives symbols unit (weakest :: operators) terms formula
  | chain {operator : Operator} {operators before after : List Term} {left right : Formula} :
      Derives symbols unit (operator.symbol :: operators) before left →
      Derives symbols unit operators after right →
      Derives symbols unit (operator.symbol :: operators) (before ++ operator.symbol :: after)
        (.binary operator left right)
  | reference {term : Term} : symbols.isVariable term = true →
      Derives symbols unit [] [term] (.reference term)
  | number {term : Term} {value : Binary64} : symbols.isVariable term = false →
      Numeral.read? term = some value → Derives symbols unit [] [term] (.number value)
  | brackets {inner : List Term} {formula : Formula} :
      Derives symbols unit symbols.operators inner formula →
      Derives symbols unit [] (bracketed inner) formula
  | call {function : Builtin} {argument : List Term} {formula : Formula} :
      symbols.isFunction function.name = true →
      Derives symbols unit symbols.operators argument formula →
      Derives symbols unit [] (function.name :: bracketed argument) (.call function unit formula)

/-! ## What a derivation says about its list -/

/-- A valid list that is not empty, without separators outside brackets, and with no operators
outside brackets but some. -/
structure Spelled (symbols : Symbols) (operators terms : List Term) : Prop where
  balanced : Balanced terms
  nonempty : terms ≠ []
  known : ∀ term ∈ terms, symbols.isKnown term = true
  wellCalled : WellCalled symbols terms
  unseparated : ¬ Outside Term.separator terms
  outer : ∀ operator ∈ symbols.operators, Outside operator terms → operator ∈ operators

namespace Spelled

variable {symbols : Symbols}

/-- A single term that is no bracket, separator, operator or function. -/
theorem single {term : Term} (neutral : weight term = 0) (known : symbols.isKnown term = true)
    (noFunction : symbols.isFunction term = false) (noSeparator : term ≠ Term.separator)
    (noOperator : term ∉ symbols.operators) : Spelled symbols [] [term] where
  balanced := .single neutral
  nonempty := List.cons_ne_nil _ _
  known := by
    intro other member
    rwa [List.mem_singleton.mp member]
  wellCalled := wellCalled_single noFunction
  unseparated := fun outside => noSeparator (outside_singleton outside)
  outer := by
    intro operator member outside
    rw [← outside_singleton outside] at member
    exact absurd member noOperator

variable (regular : symbols.Regular)
include regular

theorem variableTerm {term : Term} (named : symbols.isVariable term = true) :
    Spelled symbols [] [term] := by
  have member := Symbols.isVariable_iff.mp named
  obtain ⟨noOperator, noFunction, noOpening, noClosing, noSeparator⟩ :=
    regular.variables_apart term member
  exact single (weight_eq_zero noOpening noClosing) (Symbols.isKnown_iff.mpr (.inr (.inl member)))
    (Bool.eq_false_iff.mpr (mt Symbols.isFunction_iff.mp noFunction)) noSeparator noOperator

theorem numeralTerm {term : Term} {value : Binary64} (numeral : Numeral.read? term = some value) :
    Spelled symbols [] [term] :=
  single (weight_of_numeral numeral) (Symbols.isKnown_iff.mpr (.inl ⟨value, numeral⟩))
    (regular.isFunction_numeral numeral) (ne_separator_of_numeral numeral)
    (regular.not_operator_of_numeral numeral)

theorem bracketed {operators inner : List Term} (spelled : Spelled symbols operators inner) :
    Spelled symbols [] (bracketed inner) where
  balanced := spelled.balanced.bracketed
  nonempty := List.cons_ne_nil _ _
  known := by
    intro term member
    rcases List.mem_cons.mp member with rfl | member
    · exact Symbols.isKnown_iff.mpr (.inr (.inr (.inr (.inr regular.opening_special))))
    rcases List.mem_append.mp member with member | member
    · exact spelled.known term member
    · rw [List.mem_singleton.mp member]
      exact Symbols.isKnown_iff.mpr (.inr (.inr (.inr (.inr regular.closing_special))))
  wellCalled := wellCalled_bracketed regular.toResolved spelled.balanced
  unseparated := by
    intro outside
    exact absurd (eq_opening_of_outside_bracketed spelled.balanced outside) (by decide)
  outer := by
    intro operator member outside
    have neutral := regular.weight_operator member
    rw [eq_opening_of_outside_bracketed spelled.balanced outside] at neutral
    cases neutral

/-- Outside the brackets of a call there is, besides what is outside its brackets, the function
only. -/
theorem calling {operators argument : List Term} {function : Builtin}
    (named : symbols.isFunction function.name = true)
    (spelled : Spelled symbols operators argument) :
    Spelled symbols [] (function.name :: Bracket.bracketed argument) := by
  have unit := spelled.bracketed regular
  have places (term : Term)
      (outside : Outside term ([] ++ function.name :: Bracket.bracketed argument)) :
      function.name = term ∨ Outside term (Bracket.bracketed argument) :=
    ((outside_append_cons rfl function.weight_name).mp outside).resolve_left (not_outside_nil term)
  exact {
    balanced := (Balanced.single function.weight_name).append unit.balanced
    nonempty := List.cons_ne_nil _ _
    known := by
      intro term member
      rcases List.mem_cons.mp member with rfl | member
      · exact Symbols.isKnown_iff.mpr (.inr (.inr (.inr (.inl (Symbols.isFunction_iff.mp named)))))
      · exact unit.known term member
    wellCalled := wellCalled_call regular.toResolved named spelled.balanced
    unseparated := by
      intro outside
      rcases places _ outside with same | inside
      · exact function.name_ne_separator same
      · exact unit.unseparated inside
    outer := by
      intro operator member outside
      rcases places operator outside with rfl | inside
      · have unnamed := regular.isFunction_operator member
        rw [named] at unnamed
        cases unnamed
      · exact unit.outer operator member inside }

omit regular in
/-- More operators may stand outside brackets. -/
theorem weaken {operators terms : List Term} (spelled : Spelled symbols operators terms)
    (weakest : Term) : Spelled symbols (weakest :: operators) terms :=
  { spelled with outer := fun operator member outside =>
      List.mem_cons_of_mem weakest (spelled.outer operator member outside) }

/-- An operator between two lists. -/
theorem joined {operators before after : List Term} {operator : Operator}
    (member : operator.symbol ∈ symbols.operators)
    (left : Spelled symbols (operator.symbol :: operators) before)
    (right : Spelled symbols operators after) :
    Spelled symbols (operator.symbol :: operators) (before ++ operator.symbol :: after) where
  balanced := left.balanced.append ((Balanced.single operator.weight_symbol).append right.balanced)
  nonempty := by simp only [ne_eq, List.append_eq_nil_iff, reduceCtorEq, and_false,
    not_false_eq_true]
  known := by
    intro term isTerm
    rcases List.mem_append.mp isTerm with isTerm | isTerm
    · exact left.known term isTerm
    rcases List.mem_cons.mp isTerm with rfl | isTerm
    · exact Symbols.isKnown_iff.mpr (.inr (.inr (.inl member)))
    · exact right.known term isTerm
  wellCalled := wellCalled_append_cons left.wellCalled right.wellCalled left.balanced.closed
    operator.weight_symbol (regular.isFunction_operator member)
  unseparated := by
    rw [outside_append_cons left.balanced.closed operator.weight_symbol]
    rintro (inside | same | inside)
    · exact left.unseparated inside
    · exact operator.symbol_ne_separator same
    · exact right.unseparated inside
  outer := by
    intro other isOperator outside
    rcases (outside_append_cons left.balanced.closed operator.weight_symbol).mp outside with
      inside | rfl | inside
    · exact left.outer other isOperator inside
    · exact List.mem_cons_self
    · exact List.mem_cons_of_mem _ (right.outer other isOperator inside)

end Spelled

namespace Derives

variable {symbols : Symbols} {unit : AngleUnit} {operators terms : List Term} {formula : Formula}

/-- **A list with a derivation is spelled with the operators of the derivation.** -/
theorem spelled (regular : symbols.Regular)
    (derivation : Derives symbols unit operators terms formula) :
    operators <:+ symbols.operators → Spelled symbols operators terms := by
  induction derivation with
  | tighter _ ih =>
      intro suffix
      exact (ih ((List.suffix_cons _ _).trans suffix)).weaken _
  | chain _ _ left right =>
      intro suffix
      exact .joined regular (suffix.subset List.mem_cons_self) (left suffix)
        (right ((List.suffix_cons _ _).trans suffix))
  | reference named => exact fun _ => .variableTerm regular named
  | number _ numeral => exact fun _ => .numeralTerm regular numeral
  | brackets _ ih => exact fun _ => (ih (List.suffix_refl _)).bracketed regular
  | call named _ ih => exact fun _ => (ih (List.suffix_refl _)).calling regular named

/-- Weaker operators may be added to a derivation. -/
theorem widen (derivation : Derives symbols unit operators terms formula) (weaker : List Term) :
    Derives symbols unit (weaker ++ operators) terms formula := by
  induction weaker with
  | nil => exact derivation
  | cons weakest weaker ih => exact .tighter ih

/-- A unit can be derived with any operators. -/
theorem of_unit (derivation : Derives symbols unit [] terms formula) (operators : List Term) :
    Derives symbols unit operators terms formula := by
  have wide := derivation.widen operators
  rwa [List.append_nil] at wide

/-- **A derivation needs no operator that does not stand outside brackets**, as the operator of a
chain does. -/
theorem drop_absent (regular : symbols.Regular) {weaker : List Term} :
    weaker ++ operators <:+ symbols.operators →
    Derives symbols unit (weaker ++ operators) terms formula →
    (∀ weak ∈ weaker, ¬ Outside weak terms) → Derives symbols unit operators terms formula := by
  induction weaker with
  | nil => exact fun _ derivation _ => derivation
  | cons weakest weaker ih =>
      intro suffix derivation absent
      cases derivation with
      | tighter rest =>
          exact ih ((List.suffix_cons _ _).trans suffix) rest fun weak member =>
            absent weak (List.mem_cons_of_mem weakest member)
      | chain left right =>
          have closed := (left.spelled regular suffix).balanced.closed
          exact absurd ⟨_, _, rfl, closed⟩ (absent _ List.mem_cons_self)

end Derives

end InfixFormula
