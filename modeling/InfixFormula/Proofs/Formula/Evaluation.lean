import InfixFormula.Formula.Evaluation
import InfixFormula.Proofs.Number.Closure

/-!
# What evaluation reads

The value of a formula depends on the values of its variables only (`value_congr`). When these
are binary64 numbers, evaluation has two endings: a binary64 number if every variable has a value,
and otherwise the fault that the first variable without a value, in the order of reading, is
unbound (`exists_real_iff`, `real_eq_unbound_iff`). The invariant behind both says which of the
endings every part of the formula has (`value_reals`); it needs the operators to be closed, since
an operator that failed on its left operand would hide the variables of the right one.

An environment that gives the variables of a formula binary64 numbers need not do so for other
names (`value_of_real_bindings`).
-/

set_option autoImplicit false

namespace InfixFormula

/-- An environment whose values are binary64 numbers. -/
def Environment.reals (values : String → Option Binary64) : Environment := fun name =>
  (values name).map .real

namespace Formula

theorem mem_variableNames {name : String} {formula : Formula} :
    name ∈ formula.variableNames ↔ name ∈ formula.occurrences := by
  rw [variableNames, List.mem_mergeSort, List.mem_eraseDups]

/-- **The value depends on the values of the variables only.** -/
theorem value_congr {formula : Formula} {environment other : Environment}
    (agree : ∀ name ∈ formula.occurrences, environment name = other name) :
    formula.value environment = formula.value other := by
  induction formula with
  | number => rfl
  | reference name => simp only [value, agree name (List.mem_singleton_self name)]
  | binary operator left right ihLeft ihRight =>
      have first := ihLeft fun name member => agree name (List.mem_append_left _ member)
      have second := ihRight fun name member => agree name (List.mem_append_right _ member)
      simp only [value, first, second]
  | call function unit argument ih => simp only [value, ih agree]

/-! ## Values that are binary64 numbers -/

/-- The first variable of a formula without a value, in the order of reading. -/
def firstUnbound? (values : String → Option Binary64) (formula : Formula) : Option String :=
  formula.occurrences.find? fun name => (values name).isNone

section Reals

variable (values : String → Option Binary64)

theorem firstUnbound?_eq_none_iff (formula : Formula) :
    formula.firstUnbound? values = none ↔
      ∀ name ∈ formula.variableNames, (values name).isSome = true := by
  simp only [firstUnbound?, List.find?_eq_none, mem_variableNames, Bool.not_eq_true,
    Option.isNone_eq_false_iff]

/-- **Every formula has a variable without a value, and evaluation stops at the first one, or
evaluation gives a binary64 number.** -/
theorem value_reals (formula : Formula) :
    (∃ name, formula.firstUnbound? values = some name ∧
        formula.value (.reals values) = .error (.unbound name)) ∨
      (formula.firstUnbound? values = none ∧
        ∃ x, formula.value (.reals values) = .ok (.real x)) := by
  induction formula with
  | number x => exact .inr ⟨rfl, x, rfl⟩
  | reference name =>
      simp only [firstUnbound?, occurrences, List.find?_singleton, value, Environment.reals]
      cases values name with
      | none => exact .inl ⟨name, rfl, rfl⟩
      | some x => exact .inr ⟨rfl, x, rfl⟩
  | binary operator left right ihLeft ihRight =>
      have order : firstUnbound? values (.binary operator left right) =
          (left.firstUnbound? values).or (right.firstUnbound? values) := List.find?_append
      simp only [value, order]
      rcases ihLeft with ⟨name, found, failed⟩ | ⟨none, x, first⟩
      · refine .inl ⟨name, ?_, ?_⟩
        · rw [found, Option.some_or]
        · rw [failed]
          rfl
      · rw [none, Option.none_or, first]
        rcases ihRight with ⟨name, found, failed⟩ | ⟨none, y, second⟩
        · refine .inl ⟨name, found, ?_⟩
          rw [failed]
          rfl
        · obtain ⟨z, result⟩ := operator.apply_real x y
          refine .inr ⟨none, z, ?_⟩
          rw [second]
          exact congrArg (Except.mapError EvaluationFault.ofRange) result
  | call function unit argument ih =>
      simp only [value]
      rcases ih with ⟨name, found, failed⟩ | ⟨none, x, read⟩
      · refine .inl ⟨name, found, ?_⟩
        rw [failed]
        rfl
      · obtain ⟨z, result⟩ := function.apply_real unit x
        refine .inr ⟨none, z, ?_⟩
        rw [read]
        exact congrArg (Except.mapError EvaluationFault.ofRange) result

/-- The same for the value as a binary64 number. -/
theorem real_reals (formula : Formula) :
    (∃ name, formula.firstUnbound? values = some name ∧
        formula.real (.reals values) = .error (.unbound name)) ∨
      (formula.firstUnbound? values = none ∧ ∃ x, formula.real (.reals values) = .ok x) := by
  rcases formula.value_reals values with ⟨name, found, failed⟩ | ⟨none, x, result⟩
  · refine .inl ⟨name, found, ?_⟩
    rw [real, failed]
    rfl
  · refine .inr ⟨none, x, ?_⟩
    rw [real, result]
    rfl

variable {values}

/-- **A variable is reported as unbound exactly if it is the first one without a value.** -/
theorem real_eq_unbound_iff {formula : Formula} {name : String} :
    formula.real (.reals values) = .error (.unbound name) ↔
      formula.firstUnbound? values = some name := by
  rcases formula.real_reals values with ⟨other, found, failed⟩ | ⟨none, x, result⟩
  · rw [found, failed]
    exact ⟨fun | rfl => rfl, fun | rfl => rfl⟩
  · rw [none, result]
    exact ⟨nofun, nofun⟩

/-- **Evaluation gives a number exactly if every variable has a value.** -/
theorem exists_real_iff {formula : Formula} :
    (∃ x, formula.real (.reals values) = .ok x) ↔
      ∀ name ∈ formula.variableNames, (values name).isSome = true := by
  rw [← firstUnbound?_eq_none_iff]
  rcases formula.real_reals values with ⟨other, found, failed⟩ | ⟨none, x, result⟩
  · rw [found, failed]
    exact ⟨nofun, nofun⟩
  · exact ⟨fun _ => none, fun _ => ⟨x, result⟩⟩

end Reals

/-! ## Any environment -/

/-- The binary64 number that an environment gives to a name, if it gives one. -/
def realValue? (environment : Environment) (name : String) : Option Binary64 :=
  match environment name with
  | some (.real x) => some x
  | _ => none

/-- **Evaluation is closed on binary64 numbers.** Where every variable of a formula is bound to one,
infinities and values that are not a number among them, its value is a binary64 number and not an
integer, and nothing fails. -/
theorem value_of_real_bindings {formula : Formula} {environment : Environment}
    (bound : ∀ name ∈ formula.variableNames, ∃ x, environment name = some (.real x)) :
    ∃ x, formula.value environment = .ok (.real x) ∧ formula.real environment = .ok x := by
  have agree : ∀ name ∈ formula.occurrences,
      environment name = Environment.reals (realValue? environment) name := by
    intro name member
    obtain ⟨x, found⟩ := bound name (mem_variableNames.2 member)
    simp only [Environment.reals, realValue?, found, Option.map_some]
  have everyBound : formula.firstUnbound? (realValue? environment) = none := by
    refine (firstUnbound?_eq_none_iff _ formula).2 fun name member => ?_
    obtain ⟨x, found⟩ := bound name member
    simp only [realValue?, found, Option.isSome_some]
  rcases formula.value_reals (realValue? environment) with ⟨name, found, -⟩ | ⟨-, x, result⟩
  · cases everyBound.symm.trans found
  · rw [← value_congr agree] at result
    refine ⟨x, result, ?_⟩
    rw [real, result]
    rfl

/-- A power of a tangent in degrees, with an infinity, a negative zero and a value that is not a
number as values of the variables, and an integer as the value of another name. -/
theorem value_of_real_bindings_power :
    let formula := Formula.binary .power (.call .tan .degrees (.reference "x"))
      (.binary .divide (.reference "y") (.reference "z"))
    let environment : Environment := fun name =>
      if name = "x" then some (.real .infinity)
      else if name = "y" then some (.real (.notANumber .negative))
      else if name = "z" then some (.real (-0.0))
      else some (.integer 7)
    (∀ name ∈ formula.variableNames, ∃ x, environment name = some (.real x)) ∧
      ∃ x, formula.value environment = .ok (.real x) ∧ formula.real environment = .ok x := by
  intro formula environment
  have bound : ∀ name ∈ formula.variableNames, ∃ x, environment name = some (.real x) := by
    intro name member
    have occurs : name ∈ ["x", "y", "z"] := mem_variableNames.1 member
    simp only [List.mem_cons, List.not_mem_nil, or_false] at occurs
    rcases occurs with rfl | rfl | rfl
    · exact ⟨.infinity, rfl⟩
    · exact ⟨.notANumber .negative, rfl⟩
    · exact ⟨-0.0, rfl⟩
  exact ⟨bound, value_of_real_bindings bound⟩

end Formula

end InfixFormula
