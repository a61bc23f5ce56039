import InfixFormula.Proofs.Bracket.Depth

/-!
# Resolved tables of symbols

A table of symbols is resolved when all of its operators and functions are built in; this is the
link between the texts of a table and what they stand for. In a resolved table no operator and no
function is a bracket, a numeral or one of the other kind. A regular table moreover lists each
operator once, has both brackets among its special characters, and gives no variable a name that
means something else.
-/

set_option autoImplicit false

namespace InfixFormula

namespace Operator

theorem ofSymbol?_symbol (operator : Operator) : ofSymbol? operator.symbol = some operator := by
  cases operator <;> rfl

theorem weight_symbol (operator : Operator) : Bracket.weight operator.symbol = 0 := by
  cases operator <;> rfl

theorem read?_symbol (operator : Operator) : Numeral.read? operator.symbol = none := by
  cases operator <;> rfl

theorem symbol_ne_separator (operator : Operator) : operator.symbol ≠ Term.separator := by
  cases operator <;> decide

theorem symbol_ne_name (operator : Operator) (function : Builtin) :
    operator.symbol ≠ function.name := by
  cases operator <;> cases function <;> decide

end Operator

namespace Builtin

theorem ofName?_name (function : Builtin) : ofName? function.name = some function := by
  cases function <;> rfl

theorem weight_name (function : Builtin) : Bracket.weight function.name = 0 := by
  cases function <;> rfl

theorem read?_name (function : Builtin) : Numeral.read? function.name = none := by
  cases function <;> rfl

theorem name_ne_separator (function : Builtin) : function.name ≠ Term.separator := by
  cases function <;> decide

end Builtin

/-- No bracket is a numeral. -/
theorem weight_of_numeral {term : Term} {value : Binary64}
    (numeral : Numeral.read? term = some value) : Bracket.weight term = 0 := by
  refine Bracket.weight_eq_zero ?_ ?_
  all_goals
    rintro rfl
    cases numeral

theorem ne_separator_of_numeral {term : Term} {value : Binary64}
    (numeral : Numeral.read? term = some value) : term ≠ Term.separator := by
  rintro rfl
  cases numeral

namespace Symbols

/-- No bracket is the name of a function. -/
structure BracketsUnnamed (symbols : Symbols) : Prop where
  opening : symbols.isFunction Term.opening = false
  closing : symbols.isFunction Term.closing = false

/-- All operators and functions of the table are built in. -/
structure Resolved (symbols : Symbols) : Prop where
  operators : ∀ term ∈ symbols.operators, ∃ operator : Operator, operator.symbol = term
  functions : ∀ term ∈ symbols.functionNames, ∃ function : Builtin, function.name = term

/-- A resolved table without repeated operators, with brackets, and with variables of their
own. -/
structure Regular (symbols : Symbols) : Prop extends Resolved symbols where
  nodup : symbols.operators.Nodup
  opening_special : Term.opening ∈ symbols.special
  closing_special : Term.closing ∈ symbols.special
  variables_apart : ∀ term ∈ symbols.variableNames, term ∉ symbols.operators ∧
    term ∉ symbols.functionNames ∧ term ≠ Term.opening ∧ term ≠ Term.closing ∧
    term ≠ Term.separator

/-- The standard table is regular. -/
theorem regular_default : Regular {} where
  operators := by
    intro term member
    obtain ⟨operator, _, same⟩ := List.mem_map.mp member
    exact ⟨operator, same⟩
  functions := by
    intro term member
    obtain ⟨function, _, same⟩ := List.mem_map.mp member
    exact ⟨function, same⟩
  nodup := by decide
  opening_special := by decide
  closing_special := by decide
  variables_apart := by decide

variable {symbols : Symbols} {term : Term}

theorem BracketsUnnamed.weight_function (unnamed : symbols.BracketsUnnamed)
    (named : symbols.isFunction term = true) : Bracket.weight term = 0 := by
  refine Bracket.weight_eq_zero ?_ ?_
  · rintro rfl
    rw [unnamed.opening] at named
    cases named
  · rintro rfl
    rw [unnamed.closing] at named
    cases named

theorem isVariable_iff : symbols.isVariable term = true ↔ term ∈ symbols.variableNames :=
  List.contains_iff_mem

theorem isOperator_iff : symbols.isOperator term = true ↔ term ∈ symbols.operators :=
  List.contains_iff_mem

theorem isFunction_iff : symbols.isFunction term = true ↔ term ∈ symbols.functionNames :=
  List.contains_iff_mem

/-- A term is known if it is a numeral or has an entry in the table. -/
theorem isKnown_iff : symbols.isKnown term = true ↔ (∃ value, Numeral.read? term = some value) ∨
    term ∈ symbols.variableNames ∨ term ∈ symbols.operators ∨ term ∈ symbols.functionNames ∨
    term ∈ symbols.special := by
  simp only [isKnown, Term.isNumeral, isSpecial, Bool.or_eq_true, isVariable_iff, isOperator_iff,
    isFunction_iff, List.contains_iff_mem, Option.isSome_iff_exists, or_assoc]

namespace Resolved

variable (resolved : symbols.Resolved)
include resolved

theorem ofSymbol?_of_mem (member : term ∈ symbols.operators) :
    ∃ operator, Operator.ofSymbol? term = some operator := by
  obtain ⟨operator, rfl⟩ := resolved.operators term member
  exact ⟨operator, operator.ofSymbol?_symbol⟩

theorem ofName?_of_mem (member : term ∈ symbols.functionNames) :
    ∃ function, Builtin.ofName? term = some function := by
  obtain ⟨function, rfl⟩ := resolved.functions term member
  exact ⟨function, function.ofName?_name⟩

theorem weight_operator (member : term ∈ symbols.operators) : Bracket.weight term = 0 := by
  obtain ⟨operator, rfl⟩ := resolved.operators term member
  exact operator.weight_symbol

theorem weight_function (named : symbols.isFunction term = true) : Bracket.weight term = 0 := by
  obtain ⟨function, rfl⟩ := resolved.functions term (isFunction_iff.mp named)
  exact function.weight_name

theorem isFunction_opening : symbols.isFunction Term.opening = false := by
  rw [← Bool.not_eq_true]
  intro named
  cases resolved.weight_function named

theorem bracketsUnnamed : symbols.BracketsUnnamed where
  opening := resolved.isFunction_opening
  closing := by
    rw [← Bool.not_eq_true]
    intro named
    cases resolved.weight_function named

theorem isFunction_operator (member : term ∈ symbols.operators) :
    symbols.isFunction term = false := by
  rw [← Bool.not_eq_true, isFunction_iff]
  intro named
  obtain ⟨operator, rfl⟩ := resolved.operators term member
  obtain ⟨function, same⟩ := resolved.functions _ named
  exact operator.symbol_ne_name function same.symm

theorem isFunction_numeral {value : Binary64} (numeral : Numeral.read? term = some value) :
    symbols.isFunction term = false := by
  rw [← Bool.not_eq_true, isFunction_iff]
  intro named
  obtain ⟨function, rfl⟩ := resolved.functions _ named
  rw [function.read?_name] at numeral
  cases numeral

theorem not_operator_of_numeral {value : Binary64} (numeral : Numeral.read? term = some value) :
    term ∉ symbols.operators := by
  intro member
  obtain ⟨operator, rfl⟩ := resolved.operators term member
  rw [operator.read?_symbol] at numeral
  cases numeral

end Resolved

/-! ## Variables of a regular table -/

namespace Regular

variable (regular : symbols.Regular)
include regular

theorem isVariable_operator (member : term ∈ symbols.operators) :
    symbols.isVariable term = false := by
  rw [← Bool.not_eq_true, isVariable_iff]
  exact fun named => (regular.variables_apart term named).1 member

theorem isVariable_function (named : symbols.isFunction term = true) :
    symbols.isVariable term = false := by
  rw [← Bool.not_eq_true, isVariable_iff]
  exact fun member => (regular.variables_apart term member).2.1 (isFunction_iff.mp named)

theorem isVariable_opening : symbols.isVariable Term.opening = false := by
  rw [← Bool.not_eq_true, isVariable_iff]
  exact fun member => (regular.variables_apart _ member).2.2.1 rfl

theorem isVariable_closing : symbols.isVariable Term.closing = false := by
  rw [← Bool.not_eq_true, isVariable_iff]
  exact fun member => (regular.variables_apart _ member).2.2.2.1 rfl

end Regular

end Symbols

end InfixFormula
