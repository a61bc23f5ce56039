import InfixFormula.Number.Builtin
import InfixFormula.Number.Operator
import InfixFormula.Proofs.Number.Range
import InfixFormula.Proofs.Result

/-!
# Where exact integers overflow

Exact integers have no limit, and an operation fails where one of them has to become a binary64
number and is too large. Which operands these are depends on the operation (`Operator.Overflows`,
`Builtin.Overflows`): sums, differences and products convert an integer only to meet a real number,
a power gives up only on a large basis under an odd exponent, and of the functions only the circular
ones do, which convert an angle in degrees before anything else. The operations fail exactly there
(`Operator.apply_eq_error_iff`, `Builtin.apply_eq_error_iff`).

An operation that fails has an operand that is too large on its own
(`Operator.Overflows.operand_tooLarge`). This holds of a quotient of integers as well, though it is
never converted, since it is out of range only if its dividend is.
-/

set_option autoImplicit false

namespace InfixFormula

namespace Number

/-- Whether a number is an integer that is out of the range of binary64 numbers. -/
def TooLarge : Number → Prop
  | integer value => Binary64.overflowThreshold ≤ value.natAbs
  | real _ => False

instance : DecidablePred TooLarge
  | integer value => inferInstanceAs (Decidable (Binary64.overflowThreshold ≤ value.natAbs))
  | real _ => inferInstanceAs (Decidable False)

theorem toReal_eq_error_iff {x : Number} {failure : OutOfRange} :
    x.toReal = .error failure ↔ x.TooLarge := by
  cases x with
  | integer value =>
      rw [TooLarge, ← Binary64.ofInteger?_eq_none_iff, toReal]
      cases Binary64.ofInteger? value with
      | none => exact iff_of_true rfl rfl
      | some x => simp
  | real value => simp [toReal, TooLarge]

theorem exists_toReal_iff {x : Number} : (∃ y, x.toReal = .ok y) ↔ ¬ x.TooLarge := by
  rw [← @toReal_eq_error_iff x {}]
  cases x.toReal with
  | ok y => simp
  | error failure => simp

theorem not_tooLarge_of_isZero {x : Number} (zero : x.isZero = true) : ¬ x.TooLarge := by
  cases x with
  | integer value =>
      rw [LawfulBEq.eq_of_beq zero]
      exact Nat.not_le_of_gt (Nat.zero_lt_of_lt Binary64.two_pow_lt_overflowThreshold)
  | real value => exact not_false

end Number

/-- Converting one number after the other fails if one of them is too large. -/
theorem convert_eq_error_iff {left right : Number} {failure : OutOfRange}
    {operation : Binary64 → Binary64 → Except OutOfRange Number}
    (total : ∀ x y, operation x y ≠ .error failure) :
    (left.toReal >>= fun x => right.toReal >>= fun y => operation x y) = .error failure ↔
      left.TooLarge ∨ right.TooLarge := by
  simp only [bind_eq_error_iff, Number.toReal_eq_error_iff, total, and_false, exists_false,
    or_false, exists_and_right, Number.exists_toReal_iff]
  by_cases first : left.TooLarge
  · exact iff_of_true (.inl first) (.inl first)
  · rw [and_iff_right first]

namespace Operator

/-- Whether two numbers are converted, of which one is too large. -/
def ConversionOverflows : Number → Number → Prop
  | .integer _, .integer _ => False
  | left, right => left.TooLarge ∨ right.TooLarge

theorem ConversionOverflows.operand_tooLarge {left right : Number}
    (overflows : ConversionOverflows left right) : left.TooLarge ∨ right.TooLarge := by
  cases left <;> cases right
  case integer.integer => exact overflows.elim
  all_goals exact overflows

/-- The operands on which an operator fails. -/
def Overflows (operator : Operator) (left right : Number) : Prop :=
  match operator with
  | add | subtract | multiply => ConversionOverflows left right
  | divide =>
      if right.isZero then left.TooLarge
      else match left, right with
      | .integer m, .integer n => Binary64.overflowThreshold * n.natAbs ≤ m.natAbs
      | _, _ => ConversionOverflows left right
  | power => right.isOdd = true ∧ left.TooLarge

theorem combine_eq_error_iff {onIntegers : Int → Int → Int}
    {onReals : Binary64 → Binary64 → Binary64} {left right : Number} {failure : OutOfRange} :
    combine onIntegers onReals left right = .error failure ↔ ConversionOverflows left right := by
  cases left <;> cases right
  case integer.integer => exact iff_of_false pure_ne_error not_false
  all_goals exact convert_eq_error_iff fun _ _ => pure_ne_error

theorem divideByZero_eq_error_iff {left right : Number} {failure : OutOfRange}
    (zero : right.isZero = true) :
    divideByZero left right = .error failure ↔ left.TooLarge := by
  rw [divideByZero]
  split
  next none => exact iff_of_false pure_ne_error (Number.not_tooLarge_of_isZero none)
  next =>
    refine (convert_eq_error_iff fun x y => ?_).trans
      (or_iff_left (Number.not_tooLarge_of_isZero zero))
    split <;> exact pure_ne_error

theorem quotient_eq_error_iff {left right : Number} {failure : OutOfRange} :
    quotient left right = .error failure ↔ divide.Overflows left right := by
  unfold quotient Overflows
  by_cases zero : right.isZero = true
  · rw [if_pos zero]
    simp only [if_pos zero]
    exact divideByZero_eq_error_iff zero
  · rw [if_neg zero]
    simp only [if_neg zero]
    cases left <;> cases right
    case integer.integer m n =>
      have divisor : n ≠ 0 := by
        rintro rfl
        exact zero rfl
      dsimp only
      rw [← Binary64.quotient_isInfinite_iff divisor]
      split
      next infinite => exact iff_of_true rfl infinite
      next finite => exact iff_of_false pure_ne_error finite
    all_goals exact convert_eq_error_iff fun _ _ => pure_ne_error

theorem infinitePower_eq_error_iff {left right : Number} {failure : OutOfRange} :
    infinitePower left right = .error failure ↔ power.Overflows left right := by
  rw [infinitePower, Overflows]
  split
  next odd =>
    rw [bind_eq_error_iff, Number.toReal_eq_error_iff, and_iff_right odd]
    exact or_iff_left fun ⟨_, _, failed⟩ => pure_ne_error failed
  next notOdd => exact iff_of_false pure_ne_error fun both => notOdd both.1

theorem raise_eq_error_iff {left right : Number} {failure : OutOfRange} :
    raise left right = .error failure ↔ power.Overflows left right := by
  unfold raise
  split
  next x y first second =>
    have fits := Number.exists_toReal_iff.1 ⟨x, first⟩
    have keeps : infinitePower left right ≠ .error failure := fun failed =>
      fits (infinitePower_eq_error_iff.1 failed).2
    refine iff_of_false ?_ fun both => fits both.2
    dsimp only
    split
    next => exact pure_ne_error
    next =>
      split
      next =>
        split
        next => exact keeps
        next => exact pure_ne_error
      next =>
        split
        next => exact keeps
        next => exact pure_ne_error
  next => exact infinitePower_eq_error_iff

/-- **An operator fails exactly on the operands on which it overflows.** -/
theorem apply_eq_error_iff {operator : Operator} {left right : Number} {failure : OutOfRange} :
    operator.apply left right = .error failure ↔ operator.Overflows left right := by
  cases operator with
  | add | subtract | multiply => exact combine_eq_error_iff
  | divide => exact quotient_eq_error_iff
  | power => exact raise_eq_error_iff

/-- **An operator that overflows has an operand that is too large on its own.** -/
theorem Overflows.operand_tooLarge {operator : Operator} {left right : Number}
    (overflows : operator.Overflows left right) : left.TooLarge ∨ right.TooLarge := by
  cases operator with
  | add | subtract | multiply => exact ConversionOverflows.operand_tooLarge overflows
  | divide =>
      by_cases zero : right.isZero = true
      · simp only [Overflows, if_pos zero] at overflows
        exact .inl overflows
      · simp only [Overflows, if_neg zero] at overflows
        cases left <;> cases right
        case integer.integer m n =>
          have divisor : 0 < n.natAbs := by
            refine Int.natAbs_pos.2 ?_
            rintro rfl
            exact zero rfl
          exact .inl (Nat.le_trans (Nat.le_mul_of_pos_right _ divisor) overflows)
        all_goals exact overflows
  | power => exact .inl overflows.2

end Operator

namespace Builtin

/-- The arguments on which a function fails. -/
def Overflows (function : Builtin) (unit : AngleUnit) (argument : Number) : Prop :=
  function.isCircular = true ∧ unit = .degrees ∧ argument.TooLarge

/-- **A function fails exactly on the arguments on which it overflows.** -/
theorem apply_eq_error_iff {function : Builtin} {unit : AngleUnit} {argument : Number}
    {failure : OutOfRange} :
    function.apply unit argument = .error failure ↔ function.Overflows unit argument := by
  rw [apply, Overflows, ← and_assoc]
  split
  next degrees =>
    simp only [Bool.and_eq_true, beq_iff_eq] at degrees
    rw [bind_eq_error_iff, Number.toReal_eq_error_iff, and_iff_right degrees]
    exact or_iff_left fun ⟨_, _, failed⟩ => pure_ne_error failed
  next other =>
    simp only [Bool.and_eq_true, beq_iff_eq] at other
    exact iff_of_false pure_ne_error fun both => other both.1

end Builtin

end InfixFormula
