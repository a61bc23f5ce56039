import InfixFormula.Number.Builtin
import InfixFormula.Number.Operator

/-!
# Real numbers stay real

The operators and functions fail for one reason only, an exact integer that is out of range. On
binary64 numbers there is nothing to convert: every operator gives a binary64 number
(`Operator.apply_real`), and so does every function in either unit of angle
(`Builtin.apply_real`), for infinities and values that are not a number as well.
-/

set_option autoImplicit false

namespace InfixFormula

namespace Operator

/-- A quotient by a zero of either sign. -/
theorem divideByZero_real (x y : Binary64) :
    ∃ z, divideByZero (.real x) (.real y) = .ok (.real z) := by
  rw [divideByZero]
  split
  next => exact ⟨_, rfl⟩
  next =>
    by_cases noNumber : x.isNotANumber = true
    · exact ⟨.notANumber .positive, if_pos noNumber⟩
    · exact ⟨_, if_neg noNumber⟩

theorem quotient_real (x y : Binary64) : ∃ z, quotient (.real x) (.real y) = .ok (.real z) := by
  unfold quotient
  split
  next => exact divideByZero_real x y
  next => exact ⟨x / y, rfl⟩

theorem infinitePower_real (x y : Binary64) :
    ∃ z, infinitePower (.real x) (.real y) = .ok (.real z) := by
  rw [infinitePower]
  split
  next => exact ⟨Binary64.infinity.signed x.sign, rfl⟩
  next => exact ⟨Binary64.infinity, rfl⟩

theorem raise_real (x y : Binary64) : ∃ z, raise (.real x) (.real y) = .ok (.real z) := by
  simp only [raise, Number.toReal]
  split
  next => exact ⟨_, rfl⟩
  next =>
    split
    next =>
      split
      next => exact infinitePower_real x y
      next => exact ⟨_, rfl⟩
    next =>
      split
      next => exact infinitePower_real x y
      next => exact ⟨_, rfl⟩

/-- **Every operator on binary64 numbers gives a binary64 number.** -/
theorem apply_real (operator : Operator) (x y : Binary64) :
    ∃ z, operator.apply (.real x) (.real y) = .ok (.real z) := by
  cases operator with
  | add => exact ⟨x + y, rfl⟩
  | subtract => exact ⟨x - y, rfl⟩
  | multiply => exact ⟨x * y, rfl⟩
  | divide => exact quotient_real x y
  | power => exact raise_real x y

end Operator

namespace Builtin

theorem value_real (function : Builtin) (x : Binary64) :
    ∃ z, function.value (.real x) = .real z := by
  cases function with
  | log =>
      simp only [value, logarithm]
      split
      next => exact ⟨_, rfl⟩
      next =>
        split
        next => exact ⟨_, rfl⟩
        next => exact ⟨_, rfl⟩
  | _ => exact ⟨_, rfl⟩

/-- **Every function of a binary64 number gives a binary64 number**, in either unit of angle. -/
theorem apply_real (function : Builtin) (unit : AngleUnit) (x : Binary64) :
    ∃ z, function.apply unit (.real x) = .ok (.real z) := by
  rw [apply]
  split
  next =>
    obtain ⟨z, result⟩ := function.value_real (AngleUnit.toRadians x)
    exact ⟨z, congrArg Except.ok result⟩
  next =>
    obtain ⟨z, result⟩ := function.value_real x
    exact ⟨z, congrArg Except.ok result⟩

end Builtin

end InfixFormula
