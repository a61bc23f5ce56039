import InfixFormula.Proofs.Grammar.Derivation
import Mathlib.Algebra.Field.Defs

/-!
# The conventional reading

By convention sums and differences stand on one level, products and quotients on the next, and
each level is read strictly from left to right (`Reads`). The grammar of formulas gives every
operator a level of its own, the sum below the difference and the product below the quotient. So
it groups differently: the difference in `a + b - c` is an operand of the sum.

In a field the two readings have the same value, whatever numerals, variables, powers and
functions mean (`Derives.reads`, `Reads.derives`). The reason is that a sum may take in the chain of
its right operand link by link, and so may a product (`Interpretation.apply_assoc`); in one
direction this regroups a chain of the grammar (`Reads.join`), in the other a chain of the
convention (`Derives.regroup`). Division multiplies with an inverse, and nothing is asked of the
inverse but that it is a function; so the value of a quotient by zero plays no role.
-/

set_option autoImplicit false

namespace InfixFormula

open InfixFormula.Bracket

universe u

/-- The meaning of numerals, variables, powers and functions in a set of values, with a total
inverse. -/
structure Interpretation (K : Type u) where
  number : Binary64 → K
  reference : String → K
  inverse : K → K
  power : K → K → K
  function : Builtin → K → K

namespace Interpretation

variable {K : Type u} [Field K] (interpretation : Interpretation K)

/-- The value of an operator on two values. -/
def apply : Operator → K → K → K
  | .add, x, y => x + y
  | .subtract, x, y => x - y
  | .multiply, x, y => x * y
  | .divide, x, y => x * interpretation.inverse y
  | .power, x, y => interpretation.power x y

/-- The value of a formula. -/
def value : Formula → K
  | .number value => interpretation.number value
  | .reference name => interpretation.reference name
  | .binary operator left right => interpretation.apply operator (value left) (value right)
  | .call function _ argument => interpretation.function function (value argument)

end Interpretation

/-! ## The convention -/

/-- The levels of the convention. -/
inductive Rank where
  | sum
  | product
  | power
  | atom
deriving DecidableEq

/-- The next level. -/
def Rank.tighter : Rank → Rank
  | sum => product
  | product => power
  | power | atom => atom

/-- The level on which an operator stands. -/
def Operator.rank : Operator → Rank
  | add | subtract => .sum
  | multiply | divide => .product
  | power => .power

/-- The values of a list of terms by the convention: a chain on each level, from left to right,
and at last a variable, a numeral, a pair of brackets or a call. -/
inductive Reads {K : Type u} [Field K] (interpretation : Interpretation K) (symbols : Symbols) :
    Rank → List Term → K → Prop
  | first {rank : Rank} {terms : List Term} {x : K} :
      Reads interpretation symbols rank.tighter terms x → Reads interpretation symbols rank terms x
  | link {operator : Operator} {before after : List Term} {x y : K} :
      Reads interpretation symbols operator.rank before x →
      Reads interpretation symbols operator.rank.tighter after y →
      Reads interpretation symbols operator.rank (before ++ operator.symbol :: after)
        (interpretation.apply operator x y)
  | reference {term : Term} : symbols.isVariable term = true →
      Reads interpretation symbols .atom [term] (interpretation.reference term)
  | number {term : Term} {value : Binary64} : symbols.isVariable term = false →
      Numeral.read? term = some value →
      Reads interpretation symbols .atom [term] (interpretation.number value)
  | brackets {inner : List Term} {x : K} : Reads interpretation symbols .sum inner x →
      Reads interpretation symbols .atom (bracketed inner) x
  | call {function : Builtin} {argument : List Term} {x : K} :
      symbols.isFunction function.name = true → Reads interpretation symbols .sum argument x →
      Reads interpretation symbols .atom (function.name :: bracketed argument)
        (interpretation.function function x)

/-! ## Regrouping -/

/-- The operators that take in a chain of their level. -/
def Operator.Joins (operator : Operator) : Prop :=
  operator = .add ∨ operator = .multiply

theorem Operator.symbol_injective {operator other : Operator}
    (same : operator.symbol = other.symbol) : operator = other := by
  have found := operator.ofSymbol?_symbol
  rw [same, other.ofSymbol?_symbol] at found
  exact (Option.some.inj found).symm

variable {K : Type u} [Field K] {interpretation : Interpretation K}

/-- **A sum may take in a difference, and a product a quotient.** -/
theorem Interpretation.apply_assoc {outer inner : Operator} (joins : outer.Joins)
    (level : inner.rank = outer.rank) (x y z : K) :
    interpretation.apply outer x (interpretation.apply inner y z) =
      interpretation.apply inner (interpretation.apply outer x y) z := by
  rcases joins with rfl | rfl
  · cases inner with
    | add => exact (add_assoc x y z).symm
    | subtract => exact (add_sub_assoc x y z).symm
    | multiply | divide | power => cases level
  · cases inner with
    | multiply => exact (mul_assoc x y z).symm
    | divide => exact (mul_assoc x y (interpretation.inverse z)).symm
    | add | subtract | power => cases level

/-- An operator that takes in chains reads a whole chain of its level as its right operand. -/
theorem Reads.join {symbols : Symbols} {operator : Operator} (joins : operator.Joins)
    {before after : List Term} {x y : K}
    (left : Reads interpretation symbols operator.rank before x)
    (right : Reads interpretation symbols operator.rank after y) :
    Reads interpretation symbols operator.rank (before ++ operator.symbol :: after)
      (interpretation.apply operator x y) := by
  generalize level : operator.rank = rank at right
  induction right with
  | first operand _ =>
      rw [← level] at operand ⊢
      exact .link left operand
  | @link inner middle last y z _ operand ih _ =>
      rw [Interpretation.apply_assoc joins level.symm, ← List.cons_append, ← List.append_assoc]
      exact .link (ih level) operand
  | reference | number | brackets | call => rcases joins with rfl | rfl <;> cases level

/-- A derivation with a weakest operator does without it, or joins two lists at it. -/
theorem Derives.cons_cases {symbols : Symbols} {unit : AngleUnit} {weakest : Operator}
    {operators terms : List Term} {formula : Formula}
    (derivation : Derives symbols unit (weakest.symbol :: operators) terms formula) :
    Derives symbols unit operators terms formula ∨
      ∃ before after left right, terms = before ++ weakest.symbol :: after ∧
        formula = .binary weakest left right ∧
        Derives symbols unit (weakest.symbol :: operators) before left ∧
        Derives symbols unit operators after right := by
  generalize shape : weakest.symbol :: operators = suffix at derivation
  cases derivation with
  | tighter rest =>
      obtain ⟨_, rfl⟩ := List.cons.inj shape
      exact .inl rest
  | chain left right =>
      obtain ⟨same, rfl⟩ := List.cons.inj shape
      cases Operator.symbol_injective same
      exact .inr ⟨_, _, _, _, rfl, rfl, left, right⟩
  | reference | number | brackets | call => cases shape

/-- A chain that goes on with an operator of the same level can be derived with the same value. -/
theorem Derives.regroup {symbols : Symbols} {unit : AngleUnit} {outer inner : Operator}
    (joins : outer.Joins) (level : inner.rank = outer.rank) {operators before after : List Term}
    {left right : Formula}
    (first : Derives symbols unit (outer.symbol :: inner.symbol :: operators) before left)
    (second : Derives symbols unit operators after right) :
    ∃ formula, Derives symbols unit (outer.symbol :: inner.symbol :: operators)
        (before ++ inner.symbol :: after) formula ∧
      interpretation.value formula =
        interpretation.apply inner (interpretation.value left) (interpretation.value right) := by
  rcases first.cons_cases with whole | ⟨start, last, head, operand, rfl, rfl, start, last⟩
  · exact ⟨.binary inner left right, .tighter (.chain whole second), rfl⟩
  · -- The last operand of the chain takes in the new link.
    refine ⟨.binary outer head (.binary inner operand right), ?_,
      Interpretation.apply_assoc joins level _ _ _⟩
    rw [List.append_assoc, List.cons_append]
    exact .chain start (.chain last second)

/-! ## The standard table -/

/-- The operators of a level and the levels below it. -/
def Rank.operators : Rank → List Term
  | sum => [Operator.add.symbol, Operator.subtract.symbol, Operator.multiply.symbol,
      Operator.divide.symbol, Operator.power.symbol]
  | product => [Operator.multiply.symbol, Operator.divide.symbol, Operator.power.symbol]
  | power => [Operator.power.symbol]
  | atom => []

section Standard

variable {unit : AngleUnit} {operators terms : List Term} {formula : Formula}

/-- The level of a suffix of the order of precedence is the level of its weakest operator. -/
def Rank.ofOperators : List Term → Rank
  | [] => .atom
  | weakest :: _ => ((Operator.ofSymbol? weakest).map Operator.rank).getD .atom

theorem Rank.ofOperators_cons (operator : Operator) (operators : List Term) :
    ofOperators (operator.symbol :: operators) = operator.rank := by
  rw [ofOperators, operator.ofSymbol?_symbol]
  rfl

/-- The order of precedence splits each level of two operators in such a way that the weaker one
takes in the chains of the other. -/
theorem Rank.ofOperators_rest {operator : Operator}
    (suffix : operator.symbol :: operators <:+ ({} : Symbols).operators) :
    (operator.Joins ∧ ofOperators operators = operator.rank) ∨
      ofOperators operators = operator.rank.tighter := by
  have listed : operator.symbol :: operators <:+ [Operator.add.symbol, Operator.subtract.symbol,
    Operator.multiply.symbol, Operator.divide.symbol, Operator.power.symbol] := suffix
  simp only [List.suffix_cons_iff, List.suffix_nil, List.cons.injEq, reduceCtorEq,
    or_false] at listed
  rcases listed with ⟨same, rfl⟩ | ⟨same, rfl⟩ | ⟨same, rfl⟩ | ⟨same, rfl⟩ | ⟨same, rfl⟩ <;>
    cases Operator.symbol_injective same
  · exact .inl ⟨.inl rfl, rfl⟩
  · exact .inr rfl
  · exact .inl ⟨.inr rfl, rfl⟩
  · exact .inr rfl
  · exact .inr rfl

/-- **The value of a formula is a reading of its list.** -/
theorem Derives.reads (derivation : Derives {} unit operators terms formula) :
    operators <:+ ({} : Symbols).operators →
      Reads interpretation {} (Rank.ofOperators operators) terms
        (interpretation.value formula) := by
  induction derivation with
  | tighter _ ih =>
      intro suffix
      have read := ih ((List.suffix_cons _ _).trans suffix)
      obtain ⟨operator, rfl⟩ :=
        Symbols.regular_default.operators _ (suffix.subset List.mem_cons_self)
      rw [Rank.ofOperators_cons]
      rcases Rank.ofOperators_rest suffix with ⟨_, same⟩ | next
      · rwa [same] at read
      · rw [next] at read
        exact .first read
  | chain _ _ left right =>
      intro suffix
      have before := left suffix
      have after := right ((List.suffix_cons _ _).trans suffix)
      rw [Rank.ofOperators_cons] at before ⊢
      rcases Rank.ofOperators_rest suffix with ⟨joins, same⟩ | next
      · rw [same] at after
        exact .join joins before after
      · rw [next] at after
        exact .link before after
  | reference named => exact fun _ => .reference named
  | number other numeral => exact fun _ => .number other numeral
  | brackets _ ih => exact fun _ => .brackets (ih (List.suffix_refl _))
  | call named _ ih => exact fun _ => .call named (ih (List.suffix_refl _))

/-- **A reading of a list is the value of a formula.** -/
theorem Reads.derives {rank : Rank} {x : K} (reading : Reads interpretation {} rank terms x)
    (unit : AngleUnit) :
    ∃ formula, Derives {} unit rank.operators terms formula ∧ interpretation.value formula = x := by
  induction reading with
  | @first rank _ _ _ ih =>
      obtain ⟨formula, derivation, rfl⟩ := ih
      refine ⟨formula, ?_, rfl⟩
      cases rank with
      | sum | product => exact .tighter (.tighter derivation)
      | power => exact .tighter derivation
      | atom => exact derivation
  | @link operator _ _ _ _ _ _ left right =>
      obtain ⟨first, before, rfl⟩ := left
      obtain ⟨second, after, rfl⟩ := right
      have difference : Operator.subtract.rank = Operator.add.rank := rfl
      have quotient : Operator.divide.rank = Operator.multiply.rank := rfl
      cases operator with
      | add => exact ⟨.binary .add first second, .chain before (.tighter after), rfl⟩
      | subtract => exact before.regroup (.inl rfl) difference after
      | multiply => exact ⟨.binary .multiply first second, .chain before (.tighter after), rfl⟩
      | divide => exact before.regroup (.inr rfl) quotient after
      | power => exact ⟨.binary .power first second, .chain before after, rfl⟩
  | reference named => exact ⟨_, .reference named, rfl⟩
  | number other numeral => exact ⟨_, .number other numeral, rfl⟩
  | brackets _ ih =>
      obtain ⟨formula, derivation, rfl⟩ := ih
      exact ⟨formula, .brackets derivation, rfl⟩
  | @call function _ _ named _ ih =>
      obtain ⟨formula, derivation, rfl⟩ := ih
      exact ⟨.call function unit formula, .call named derivation, rfl⟩

end Standard

end InfixFormula
