import InfixFormula.Formula.Builder
import InfixFormula.Formula.Evaluation

/-!
# The unit of angles

The builder carries the unit of angles down to every call and never looks at it. A builder with
another unit therefore does what the builder does, notes and faults included, and only the unit in
the calls of its formula is another one (`build_withUnit`). This is an equation between what the two
make of a list, so one induction over the levels proves it, without any assumption on the symbols or
the list.

The unit in the calls shows neither in the text of a formula nor in its variables. It shows in the
value only if a circular function is called (`value_withUnit`).
-/

set_option autoImplicit false

namespace InfixFormula

namespace Formula

/-- The formula with a unit in all of its calls. -/
def withUnit (unit : AngleUnit) : Formula → Formula
  | number value => number value
  | reference name => reference name
  | binary operator left right => binary operator (left.withUnit unit) (right.withUnit unit)
  | call function _ argument => call function unit (argument.withUnit unit)

/-- The functions that are called, each as often as it is called. -/
def functions : Formula → List Builtin
  | number _ | reference _ => []
  | binary _ left right => left.functions ++ right.functions
  | call function _ argument => function :: argument.functions

/-! ## What does not show the unit -/

section Unit

variable (unit : AngleUnit) (formula : Formula)

@[simp] theorem text_withUnit : (formula.withUnit unit).text = formula.text := by
  induction formula with
  | number | reference => rfl
  | binary operator left right ihLeft ihRight => simp only [withUnit, text, ihLeft, ihRight]
  | call function other argument ih => simp only [withUnit, text, ih]

@[simp] theorem occurrences_withUnit :
    (formula.withUnit unit).occurrences = formula.occurrences := by
  induction formula with
  | number | reference => rfl
  | binary operator left right ihLeft ihRight =>
      simp only [withUnit, occurrences, ihLeft, ihRight]
  | call function other argument ih => exact ih

@[simp] theorem variableNames_withUnit :
    (formula.withUnit unit).variableNames = formula.variableNames := by
  simp only [variableNames, occurrences_withUnit]

end Unit

end Formula

/-- A function whose argument is no angle has no use for a unit. -/
theorem Builtin.apply_of_not_circular {function : Builtin} (plain : function.isCircular = false)
    (unit other : AngleUnit) (argument : Number) :
    function.apply unit argument = function.apply other argument := by
  simp only [apply, plain, Bool.false_and]

namespace Formula

/-- **The unit does not show in the value of a formula without circular functions.** -/
theorem value_withUnit {formula : Formula} (unit : AngleUnit)
    (plain : ∀ function ∈ formula.functions, function.isCircular = false)
    (environment : Environment) :
    (formula.withUnit unit).value environment = formula.value environment := by
  induction formula with
  | number | reference => rfl
  | binary operator left right ihLeft ihRight =>
      have first := ihLeft fun function member => plain function (List.mem_append_left _ member)
      have second := ihRight fun function member => plain function (List.mem_append_right _ member)
      simp only [withUnit, value, first, second]
  | call function other argument ih =>
      obtain ⟨outer, inner⟩ := List.forall_mem_cons.mp plain
      simp only [withUnit, value, ih inner, function.apply_of_not_circular outer unit other]

/-! ## Putting formulas together -/

theorem ofOperator_withUnit (unit : AngleUnit) (symbol : String) (left right : Formula) :
    ofOperator symbol (left.withUnit unit) (right.withUnit unit) =
      (ofOperator symbol left right).map (withUnit unit) := by
  rw [ofOperator, ofOperator]
  split <;> rfl

theorem ofFunction_withUnit (unit other : AngleUnit) (name : String) (argument : Formula) :
    ofFunction name unit (argument.withUnit unit) =
      (ofFunction name other argument).map (withUnit unit) := by
  rw [ofFunction, ofFunction]
  split <;> rfl

end Formula

namespace Logged

variable {ν ε α β : Type}

theorem liftM_map (change : α → β) (result : Except ε α) :
    (liftM (result.map change) : Logged ν ε β) = change <$> (liftM result : Logged ν ε α) := by
  cases result <;> rfl

theorem map_fail (change : α → β) (fault : ε) :
    change <$> (fail fault : Logged ν ε α) = fail fault := rfl

/-- A change of the fault and a change of the value do not interfere. -/
theorem mapFault_map {δ : Type} (turn : ε → δ) (change : α → β) (logged : Logged ν ε α) :
    (change <$> logged).mapFault turn = change <$> logged.mapFault turn := by
  obtain ⟨notes, fault | value⟩ := logged <;> rfl

end Logged

namespace Builder

open Formula Logged

variable (builder : Builder) (unit : AngleUnit)

theorem around_map (turn : LeafFault → Fault) (build : Build Formula) :
    around turn (withUnit unit <$> build) = withUnit unit <$> around turn build :=
  mapFault_map _ _ _

theorem leaf_withUnit (term : Term) :
    builder.leaf term = (builder.leaf term).map (withUnit unit) := by
  rw [leaf]
  split
  next => rfl
  next => split <;> rfl

/-! ## One level and all of them -/

section Level

variable (build : List Term → Build Formula) (depth : Int)

theorem call_withUnit (function : Term) (argument : List Term) :
    { builder with angleUnit := unit }.call (fun terms => withUnit unit <$> build terms) depth
        function argument =
      withUnit unit <$> builder.call build depth function argument := by
  simp only [call, around_map, bind_map_left, ofFunction_withUnit unit builder.angleUnit,
    liftM_map]
  split
  next => rfl
  next => simp only [map_bind]

theorem split_withUnit (terms : List Term) :
    { builder with angleUnit := unit }.split (fun terms => withUnit unit <$> build terms) depth
        terms =
      withUnit unit <$> builder.split build depth terms := by
  simp only [split, around_map, bind_map_left, ofOperator_withUnit, liftM_map]
  split
  next =>
    split
    next => rfl
    next => simp only [map_bind, map_fail]
  next => simp only [map_bind]

theorem buildUnwrapped_withUnit (terms : List Term) :
    { builder with angleUnit := unit }.buildUnwrapped (fun terms => withUnit unit <$> build terms)
        depth terms =
      withUnit unit <$> builder.buildUnwrapped build depth terms := by
  rcases terms with _ | ⟨first, _ | ⟨second, rest⟩⟩
  · rfl
  · simp only [buildUnwrapped]
    rw [← liftM_map, ← leaf_withUnit]
    rfl
  · simp only [buildUnwrapped, call_withUnit, split_withUnit]
    rw [map_bind]
    congr 1
    funext
    split <;> rfl

end Level

theorem buildLevels_withUnit (levels : Nat) (terms : List Term) :
    { builder with angleUnit := unit }.buildLevels levels terms =
      withUnit unit <$> builder.buildLevels levels terms := by
  induction levels generalizing terms with
  | zero => rfl
  | succ levels ih =>
      rw [buildLevels, funext ih]
      exact builder.buildUnwrapped_withUnit unit _ _ _

/-- **Another unit of angles changes the unit in the calls and nothing else.** -/
theorem build_withUnit (terms : List Term) :
    { builder with angleUnit := unit }.build terms = withUnit unit <$> builder.build terms :=
  builder.buildLevels_withUnit unit _ terms

end Builder

end InfixFormula
