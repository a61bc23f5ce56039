import InfixFormula.Proofs.Formula.Evaluation
import InfixFormula.Proofs.Number.Overflow

/-!
# Where evaluation overflows

With a value for every variable, integers or binary64 numbers in any mixture, evaluation gives a
binary64 number or fails because an exact integer is too large. It fails exactly if an operation in
the formula overflows on the values of its operands, or the value of the whole formula is an
integer that is too large; this is `real_overflow`, from the same about the value on the way
(`value_overflowDecides`). An operation that overflows has an operand that is too large, so
evaluation gives a number where the values of all parts stay in range.

Integers that are binary64 numbers are therefore not as safe as the equal binary64 numbers: the
square of such an integer may be out of range, where the square of the number is infinite
(`square_outOfRange`).
-/

set_option autoImplicit false

namespace InfixFormula

namespace Formula

/-! ## Parts -/

/-- The parts of a formula from the outside in, the formula itself included. -/
def parts : Formula → List Formula
  | number value => [number value]
  | reference name => [reference name]
  | binary operator left right => binary operator left right :: (left.parts ++ right.parts)
  | call function unit argument => call function unit argument :: argument.parts

theorem mem_parts_self (formula : Formula) : formula ∈ formula.parts := by
  cases formula <;> exact List.mem_cons_self

theorem mem_parts_left {operator : Operator} {left right part : Formula}
    (member : part ∈ left.parts) : part ∈ (binary operator left right).parts :=
  List.mem_cons_of_mem _ (List.mem_append_left _ member)

theorem mem_parts_right {operator : Operator} {left right part : Formula}
    (member : part ∈ right.parts) : part ∈ (binary operator left right).parts :=
  List.mem_cons_of_mem _ (List.mem_append_right _ member)

theorem mem_parts_argument {function : Builtin} {unit : AngleUnit} {argument part : Formula}
    (member : part ∈ argument.parts) : part ∈ (call function unit argument).parts :=
  List.mem_cons_of_mem _ member

theorem mem_parts_trans {formula part inner : Formula} (outer : part ∈ formula.parts)
    (member : inner ∈ part.parts) : inner ∈ formula.parts := by
  induction formula with
  | number | reference => rwa [← List.mem_singleton.1 outer]
  | binary operator left right ihLeft ihRight =>
      rcases List.mem_cons.1 outer with rfl | outer
      · exact member
      · rcases List.mem_append.1 outer with outer | outer
        · exact mem_parts_left (ihLeft outer)
        · exact mem_parts_right (ihRight outer)
  | call function unit argument ih =>
      rcases List.mem_cons.1 outer with rfl | outer
      · exact member
      · exact mem_parts_argument (ih outer)

/-! ## Overflow of a part -/

/-- Whether the outermost operation of a formula overflows on the values of its operands. -/
def Overflows (environment : Environment) : Formula → Prop
  | number _ | reference _ => False
  | binary operator left right =>
      ∃ x y, left.value environment = .ok x ∧ right.value environment = .ok y ∧
        operator.Overflows x y
  | call function unit argument =>
      ∃ x, argument.value environment = .ok x ∧ function.Overflows unit x

variable {environment : Environment}

/-- A formula that overflows has a part whose value is too large. -/
theorem Overflows.exists_tooLarge {formula : Formula}
    (overflows : formula.Overflows environment) :
    ∃ part ∈ formula.parts, ∃ x, part.value environment = .ok x ∧ x.TooLarge := by
  cases formula with
  | number | reference => exact overflows.elim
  | binary operator left right =>
      obtain ⟨x, y, first, second, overflows⟩ := overflows
      rcases overflows.operand_tooLarge with large | large
      · exact ⟨left, mem_parts_left left.mem_parts_self, x, first, large⟩
      · exact ⟨right, mem_parts_right right.mem_parts_self, y, second, large⟩
  | call function unit argument =>
      obtain ⟨x, first, -, -, large⟩ := overflows
      exact ⟨argument, mem_parts_argument argument.mem_parts_self, x, first, large⟩

/-- Overflow of a part decides whether a formula has a value or is out of range. -/
def OverflowDecides (environment : Environment) (formula : Formula) : Prop :=
  ((∃ x, formula.value environment = .ok x) ∧
      ∀ part ∈ formula.parts, ¬ part.Overflows environment) ∨
    (formula.value environment = .error .outOfRange ∧
      ∃ part ∈ formula.parts, part.Overflows environment)

/-- Where nothing overflows in the operands, the result of the outermost operation decides. -/
theorem overflowDecides_of_operands {formula : Formula} {operands : List Formula}
    (result : Except OutOfRange Number)
    (outermost : formula.value environment = result.mapError .ofRange)
    (fails : result = .error {} ↔ formula.Overflows environment)
    (parts : formula.parts = formula :: operands)
    (fits : ∀ part ∈ operands, ¬ part.Overflows environment) :
    formula.OverflowDecides environment := by
  cases result with
  | ok x =>
      refine .inl ⟨⟨x, outermost⟩, ?_⟩
      rw [parts, List.forall_mem_cons]
      exact ⟨fun overflows => pure_ne_error (fails.2 overflows), fits⟩
  | error failure => exact .inr ⟨outermost, formula, formula.mem_parts_self, fails.1 rfl⟩

/-- **Evaluation gives a value if no part of a formula overflows, and is out of range if one
does.** -/
theorem value_overflowDecides {formula : Formula}
    (bound : ∀ name ∈ formula.occurrences, ∃ x, environment name = some x) :
    formula.OverflowDecides environment := by
  induction formula with
  | number value =>
      refine .inl ⟨⟨.real value, rfl⟩, fun part member => ?_⟩
      rw [List.mem_singleton.1 member]
      exact not_false
  | reference name =>
      obtain ⟨x, found⟩ := bound name (List.mem_singleton_self name)
      refine .inl ⟨⟨x, ?_⟩, fun part member => ?_⟩
      · rw [value, found]
      · rw [List.mem_singleton.1 member]
        exact not_false
  | binary operator left right ihLeft ihRight =>
      rcases ihLeft fun name member => bound name (List.mem_append_left _ member) with
        ⟨⟨x, first⟩, leftFits⟩ | ⟨failed, part, member, overflows⟩
      · rcases ihRight fun name member => bound name (List.mem_append_right _ member) with
          ⟨⟨y, second⟩, rightFits⟩ | ⟨failed, part, member, overflows⟩
        · refine overflowDecides_of_operands (operator.apply x y) ?_ ?_ rfl ?_
          · rw [value, first, second]
            rfl
          · rw [Operator.apply_eq_error_iff]
            refine ⟨fun overflows => ⟨x, y, first, second, overflows⟩, ?_⟩
            rintro ⟨_, _, leftValue, rightValue, overflows⟩
            cases first.symm.trans leftValue
            cases second.symm.trans rightValue
            exact overflows
          · exact List.forall_mem_append.2 ⟨leftFits, rightFits⟩
        · refine .inr ⟨?_, part, mem_parts_right member, overflows⟩
          rw [value, first, failed]
          rfl
      · refine .inr ⟨?_, part, mem_parts_left member, overflows⟩
        rw [value, failed]
        rfl
  | call function unit argument ih =>
      rcases ih bound with ⟨⟨x, first⟩, fits⟩ | ⟨failed, part, member, overflows⟩
      · refine overflowDecides_of_operands (function.apply unit x) ?_ ?_ rfl fits
        · rw [value, first]
          rfl
        · rw [Builtin.apply_eq_error_iff]
          refine ⟨fun overflows => ⟨x, first, overflows⟩, ?_⟩
          rintro ⟨_, argumentValue, overflows⟩
          cases first.symm.trans argumentValue
          exact overflows
      · refine .inr ⟨?_, part, mem_parts_argument member, overflows⟩
        rw [value, failed]
        rfl

/-! ## The value as a binary64 number -/

/-- The value is converted in the end. -/
theorem real_of_value {formula : Formula} {x : Number}
    (result : formula.value environment = .ok x) :
    formula.real environment = x.toReal.mapError .ofRange := by
  rw [real, result]
  rfl

/-- **Evaluation gives a number or overflows, and where no part is too large it gives a number.**
It overflows exactly if an operation overflows on the values of its operands, or the value of the
whole is an integer that is too large. -/
theorem real_overflow {formula : Formula}
    (bound : ∀ name ∈ formula.variableNames, ∃ x, environment name = some x) :
    ((∃ x, formula.real environment = .ok x) ∨
        formula.real environment = .error .outOfRange) ∧
      (formula.real environment = .error .outOfRange ↔
        (∃ part ∈ formula.parts, part.Overflows environment) ∨
          ∃ x, formula.value environment = .ok x ∧ x.TooLarge) ∧
      ((∀ part ∈ formula.parts, ∀ x, part.value environment = .ok x → ¬ x.TooLarge) →
        ∃ x, formula.real environment = .ok x) := by
  rcases value_overflowDecides fun name member => bound name (mem_variableNames.2 member) with
    ⟨⟨x, result⟩, fits⟩ | ⟨failed, part, member, overflows⟩
  · rw [real_of_value result]
    cases converted : x.toReal with
    | ok y =>
        have kept := Number.exists_toReal_iff.1 ⟨y, converted⟩
        refine ⟨.inl ⟨y, rfl⟩, iff_of_false pure_ne_error ?_, fun _ => ⟨y, rfl⟩⟩
        rintro (⟨part, member, overflows⟩ | ⟨_, same, large⟩)
        · exact fits part member overflows
        · cases result.symm.trans same
          exact kept large
    | error failure =>
        have large := Number.toReal_eq_error_iff.1 converted
        refine ⟨.inr rfl, iff_of_true rfl (.inr ⟨x, result, large⟩), fun inRange => ?_⟩
        exact absurd large (inRange formula formula.mem_parts_self x result)
  · have stops : formula.real environment = .error .outOfRange := by
      rw [real, failed]
      rfl
    refine ⟨.inr stops, iff_of_true stops (.inl ⟨part, member, overflows⟩), fun inRange => ?_⟩
    obtain ⟨inner, within, x, result, large⟩ := overflows.exists_tooLarge
    exact absurd large (inRange inner (mem_parts_trans member within) x result)

/-- The square of an integer that is too large as a whole. -/
theorem real_overflow_square :
    let square := Formula.binary .multiply (.reference "x") (.reference "x")
    let environment : Environment := fun _ => some (.integer (2 ^ 512 : Nat))
    (∀ name ∈ square.variableNames, ∃ x, environment name = some x) ∧
      square.real environment = .error .outOfRange := by
  intro square environment
  have bound : ∀ name ∈ square.variableNames, ∃ x, environment name = some x :=
    fun _ _ => ⟨_, rfl⟩
  have large : (Number.integer (2 ^ 512 * 2 ^ 512 : Nat)).TooLarge := by decide +kernel
  exact ⟨bound, (real_overflow bound).2.1.2 (.inr ⟨_, rfl, large⟩)⟩

/-- **An integer that is exactly a binary64 number fails where that number has an infinite
square.** -/
theorem square_outOfRange :
    let square := Formula.binary .multiply (.reference "x") (.reference "x")
    let base : Nat := 2 ^ 512
    ∃ x, Binary64.ofInteger? base = some x ∧ x.isInteger base = true ∧
      square.real (fun _ => some (.real x)) = .ok .infinity ∧
      square.real (fun _ => some (.integer base)) = .error .outOfRange := by
  intro square base
  have checked : (Binary64.ofInteger? base).any
      (fun x => x.isInteger base && decide (x * x = .infinity)) = true := by decide +kernel
  obtain ⟨x, found, both⟩ := (Option.any_eq_true _ _).1 checked
  obtain ⟨exact, infinite⟩ := Bool.and_eq_true_iff.1 both
  have large : (Number.integer (base * base)).TooLarge := by decide +kernel
  have failed : (Number.integer (base * base)).toReal = .error {} :=
    Number.toReal_eq_error_iff.2 large
  refine ⟨x, found, exact, congrArg Except.ok (of_decide_eq_true infinite), ?_⟩
  exact congrArg (Except.mapError EvaluationFault.ofRange) failed

end Formula

end InfixFormula
