import InfixFormula.Proofs.Number.Closure
import InfixFormula.Proofs.Number.Overflow

/-!
# What the guards leave to fail

Quotients, powers and the functions are meant to give a number for any operands, where need be an
infinity or a value that is not a number. On binary64 numbers they do. On integers they still fail
where an integer is converted outside of their guards (`Guarded.Fails`): the quotient of two
integers that is out of range, an integer that is too large in a quotient with a binary64 number or
over a zero, one that is too large as the basis under an odd exponent, and one that is too large as
an angle in degrees. These are all the failures (`Guarded.gives_number`), so each of them needs an
operand that is an integer out of the range of binary64 numbers.
-/

set_option autoImplicit false

namespace InfixFormula

/-- An operation that is guarded against numeric faults, with its operands. -/
inductive Guarded where
  | quotient (dividend divisor : Number)
  | power (basis exponent : Number)
  | call (function : Builtin) (unit : AngleUnit) (argument : Number)

namespace Guarded

/-- The operands from left to right. -/
def operands : Guarded → List Number
  | quotient dividend divisor => [dividend, divisor]
  | power basis exponent => [basis, exponent]
  | call _ _ argument => [argument]

/-- The result of the operation. -/
def result : Guarded → Except OutOfRange Number
  | quotient dividend divisor => Operator.divide.apply dividend divisor
  | power basis exponent => Operator.power.apply basis exponent
  | call function unit argument => function.apply unit argument

/-- The operations that fail. -/
inductive Fails : Guarded → Prop
  /-- A quotient of integers that is out of range; over a zero, the dividend is. -/
  | integers {dividend divisor : Int} :
      Binary64.overflowThreshold * max divisor.natAbs 1 ≤ dividend.natAbs →
      Fails (quotient (.integer dividend) (.integer divisor))
  | dividend {dividend : Int} {divisor : Binary64} :
      Binary64.overflowThreshold ≤ dividend.natAbs →
      Fails (quotient (.integer dividend) (.real divisor))
  | divisor {dividend : Binary64} {divisor : Int} :
      Binary64.overflowThreshold ≤ divisor.natAbs →
      Fails (quotient (.real dividend) (.integer divisor))
  | basis {basis : Int} {exponent : Number} :
      Binary64.overflowThreshold ≤ basis.natAbs → exponent.isOdd = true →
      Fails (power (.integer basis) exponent)
  | angle {function : Builtin} {argument : Int} : function.isCircular = true →
      Binary64.overflowThreshold ≤ argument.natAbs →
      Fails (call function .degrees (.integer argument))

/-! ## Failures and overflow -/

/-- A quotient of integers overflows if it is out of range, and over a zero if the dividend is. -/
theorem overflows_integers_iff {dividend divisor : Int} :
    Operator.divide.Overflows (.integer dividend) (.integer divisor) ↔
      Binary64.overflowThreshold * max divisor.natAbs 1 ≤ dividend.natAbs := by
  by_cases zero : divisor = 0
  · subst zero
    have one : max (0 : Int).natAbs 1 = 1 := rfl
    rw [one, Nat.mul_one]
    rfl
  · have noZero : ¬ (Number.integer divisor).isZero = true := fun same =>
      zero (LawfulBEq.eq_of_beq same)
    have whole : max divisor.natAbs 1 = divisor.natAbs := by omega
    rw [whole, Operator.Overflows, if_neg noZero]

/-- A quotient that converts its operands overflows if one of them is too large. -/
theorem overflows_divide_iff {dividend divisor : Number}
    (mixed : Operator.divide.Overflows dividend divisor ↔ if divisor.isZero then dividend.TooLarge
      else Operator.ConversionOverflows dividend divisor)
    (converts : Operator.ConversionOverflows dividend divisor ↔
      dividend.TooLarge ∨ divisor.TooLarge) :
    Operator.divide.Overflows dividend divisor ↔ dividend.TooLarge ∨ divisor.TooLarge := by
  rw [mixed]
  by_cases zero : divisor.isZero = true
  · rw [if_pos zero]
    exact (or_iff_left (Number.not_tooLarge_of_isZero zero)).symm
  · rw [if_neg zero]
    exact converts

theorem overflows_quotient_iff {dividend divisor : Number} :
    Operator.divide.Overflows dividend divisor ↔ Fails (quotient dividend divisor) := by
  cases dividend with
  | integer dividend =>
      cases divisor with
      | integer divisor =>
          rw [overflows_integers_iff]
          exact ⟨.integers, fun | .integers large => large⟩
      | real divisor =>
          rw [overflows_divide_iff .rfl .rfl]
          exact ⟨fun | .inl large => .dividend large, fun | .dividend large => .inl large⟩
  | real dividend =>
      cases divisor with
      | integer divisor =>
          rw [overflows_divide_iff .rfl .rfl]
          exact ⟨fun | .inr large => .divisor large, fun | .divisor large => .inr large⟩
      | real divisor =>
          rw [overflows_divide_iff .rfl .rfl]
          exact iff_of_false (fun large => large.elim id id) nofun

theorem overflows_power_iff {basis exponent : Number} :
    Operator.power.Overflows basis exponent ↔ Fails (power basis exponent) := by
  cases basis with
  | integer basis =>
      exact ⟨fun both => .basis both.2 both.1, fun | .basis large odd => ⟨odd, large⟩⟩
  | real basis => exact iff_of_false (fun both => both.2) nofun

theorem overflows_call_iff {function : Builtin} {unit : AngleUnit} {argument : Number} :
    function.Overflows unit argument ↔ Fails (call function unit argument) := by
  constructor
  · rintro ⟨circular, rfl, large⟩
    cases argument with
    | integer argument => exact .angle circular large
    | real argument => exact large.elim
  · rintro (_ | _)
    exact ⟨‹_›, rfl, ‹_›⟩

/-! ## Results -/

/-- The operations fail on the operands that are listed. -/
theorem result_eq_error_iff {operation : Guarded} {failure : OutOfRange} :
    operation.result = .error failure ↔ operation.Fails := by
  cases operation with
  | quotient dividend divisor => exact Operator.apply_eq_error_iff.trans overflows_quotient_iff
  | power basis exponent => exact Operator.apply_eq_error_iff.trans overflows_power_iff
  | call function unit argument => exact Builtin.apply_eq_error_iff.trans overflows_call_iff

/-- An operation that fails has an operand that is an integer out of range. -/
theorem Fails.exists_tooLarge {operation : Guarded} (fails : operation.Fails) :
    ∃ x ∈ operation.operands, x.TooLarge := by
  cases fails with
  | @integers dividend divisor large =>
      refine ⟨.integer dividend, List.mem_cons_self, Nat.le_trans ?_ large⟩
      exact Nat.le_mul_of_pos_right _ (by omega)
  | dividend large => exact ⟨_, List.mem_cons_self, large⟩
  | divisor large => exact ⟨_, List.mem_cons_of_mem _ List.mem_cons_self, large⟩
  | basis large odd => exact ⟨_, List.mem_cons_self, large⟩
  | angle circular large => exact ⟨_, List.mem_cons_self, large⟩

/-- Binary64 numbers give a binary64 number. -/
theorem result_real {operation : Guarded}
    (reals : ∀ x ∈ operation.operands, ∃ value, x = .real value) :
    ∃ value, operation.result = .ok (.real value) := by
  cases operation with
  | quotient dividend divisor =>
      obtain ⟨x, rfl⟩ := reals dividend List.mem_cons_self
      obtain ⟨y, rfl⟩ := reals divisor (List.mem_cons_of_mem _ List.mem_cons_self)
      exact Operator.apply_real .divide x y
  | power basis exponent =>
      obtain ⟨x, rfl⟩ := reals basis List.mem_cons_self
      obtain ⟨y, rfl⟩ := reals exponent (List.mem_cons_of_mem _ List.mem_cons_self)
      exact Operator.apply_real .power x y
  | call function unit argument =>
      obtain ⟨x, rfl⟩ := reals argument List.mem_cons_self
      exact function.apply_real unit x

/-- **A guarded operation gives a number except for the failures that are listed.** It gives one if
no operand is an integer out of the range of binary64 numbers, and a binary64 number if all operands
are. -/
theorem gives_number (operation : Guarded) :
    ((∃ z, operation.result = .ok z) ↔ ¬ operation.Fails) ∧
      (operation.result = .error {} ↔ operation.Fails) ∧
      ((∀ x ∈ operation.operands, ¬ x.TooLarge) → ∃ z, operation.result = .ok z) ∧
      ((∀ x ∈ operation.operands, ∃ value, x = .real value) →
        ∃ value, operation.result = .ok (.real value)) := by
  have number : (∃ z, operation.result = .ok z) ↔ ¬ operation.Fails := by
    rw [← @result_eq_error_iff operation {}]
    cases operation.result with
    | ok z => exact iff_of_true ⟨z, rfl⟩ nofun
    | error failure => exact iff_of_false nofun fun passes => passes rfl
  refine ⟨number, result_eq_error_iff, fun fit => number.mpr fun fails => ?_, result_real⟩
  obtain ⟨x, member, large⟩ := fails.exists_tooLarge
  exact fit x member large

/-- **Two to the power of 1024 makes each of the operations fail**: divided by one, in a quotient
with a binary64 number, raised to the first power, and as an angle in degrees. -/
theorem two_pow_fails :
    (quotient (.integer (2 ^ 1024)) (.integer 1)).result = .error {} ∧
      (quotient (.integer (2 ^ 1024)) (.real 0.5)).result = .error {} ∧
      (quotient (.real 0.5) (.integer (2 ^ 1024))).result = .error {} ∧
      (power (.integer (2 ^ 1024)) (.integer 1)).result = .error {} ∧
      ∀ function : Builtin, function.isCircular = true →
        (call function .degrees (.integer (2 ^ 1024))).result = .error {} := by
  have large : Binary64.overflowThreshold ≤ (2 ^ 1024 : Int).natAbs := by decide +kernel
  refine ⟨result_eq_error_iff.mpr (.integers ?_), result_eq_error_iff.mpr (.dividend large),
    result_eq_error_iff.mpr (.divisor large), result_eq_error_iff.mpr (.basis large rfl),
    fun function circular => result_eq_error_iff.mpr (.angle circular large)⟩
  exact Nat.le_trans (Nat.le_of_eq (Nat.mul_one _)) large

end Guarded

end InfixFormula
