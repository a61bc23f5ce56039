import InfixFormula.Proofs.Number.Overflow
import Mathlib.Algebra.Order.Field.Power
import Mathlib.Algebra.Order.Ring.Rat

/-!
# Infinities out of integers

An infinity is meant to stand for a result that is out of range. The exact power of two integers is
a fraction, and it is out of range from the same threshold on as an integer (`PowerOutOfRange`). But
the operations also give an infinity where an operand does not convert, whatever the result would
have been: a power of one is infinite if the exponent is too large, and so are a small power with a
negative exponent and the sine of an integer that is too large.

Where an operand does not convert, the infinity of a power is right exactly if the basis is neither
zero nor a unit and the exponent is positive, or if a zero has a negative exponent
(`powerOutOfRange_iff_of_tooLarge`). Where both do, it comes from the power of the converted
operands or from a zero with a negative exponent (`infinite_of_converted`).
-/

set_option autoImplicit false

namespace InfixFormula

/-- Whether a result is an infinity of either sign. -/
def GivesInfinity (result : Except OutOfRange Number) : Prop :=
  ∃ x, result = .ok (.real x) ∧ x.isInfinite = true

/-- Whether the exact power of two integers is out of the range of binary64 numbers. A zero has no
power with a negative exponent, and that counts as well. -/
def PowerOutOfRange (basis exponent : Int) : Prop :=
  basis = 0 ∧ exponent < 0 ∨ (Binary64.overflowThreshold : ℚ) ≤ |(basis : ℚ) ^ exponent|

/-! ## Exact powers -/

/-- An exact power that is out of range has a zero under a negative exponent, or it grows with a
positive exponent. -/
theorem PowerOutOfRange.grows {basis exponent : Int} (outside : PowerOutOfRange basis exponent) :
    basis = 0 ∧ exponent < 0 ∨ 1 < basis.natAbs ∧ 0 < exponent := by
  refine outside.imp id fun large => ?_
  have above : (1 : ℚ) < |(basis : ℚ)| ^ exponent := by
    rw [← abs_zpow]
    refine lt_of_lt_of_le ?_ large
    exact_mod_cast Nat.lt_trans (by decide) Binary64.two_pow_lt_overflowThreshold
  have size : |(basis : ℚ)| = (basis.natAbs : ℚ) := by
    rw [← Int.cast_abs, Int.abs_eq_natAbs, Int.cast_natCast]
  rw [size] at above
  rcases Nat.lt_trichotomy basis.natAbs 1 with zero | unit | big
  · rw [Nat.lt_one_iff.mp zero, Nat.cast_zero, zero_zpow_eq] at above
    split at above
    next => exact absurd above (lt_irrefl 1)
    next => exact absurd above (not_lt_of_ge zero_le_one)
  · rw [unit, Nat.cast_one, one_zpow] at above
    exact absurd above (lt_irrefl 1)
  · refine ⟨big, lt_of_not_ge fun falling => ?_⟩
    exact not_le_of_gt above (zpow_le_one_of_nonpos₀ (by exact_mod_cast big.le) falling)

/-- A power that grows is out of range as soon as one of its operands is. -/
theorem powerOutOfRange_of_grows {basis exponent : Int} (big : 1 < basis.natAbs)
    (positive : 0 < exponent)
    (large : (Number.integer basis).TooLarge ∨ (Number.integer exponent).TooLarge) :
    PowerOutOfRange basis exponent := by
  obtain ⟨count, rfl⟩ := Int.eq_ofNat_of_zero_le positive.le
  have some : count ≠ 0 := by omega
  have whole : Binary64.overflowThreshold ≤ basis.natAbs ^ count := by
    rcases large with large | large
    · exact Nat.le_trans large (Nat.le_self_pow some _)
    · calc Binary64.overflowThreshold ≤ count := large
        _ ≤ 2 ^ count := Nat.le_of_lt Nat.lt_two_pow_self
        _ ≤ basis.natAbs ^ count := Nat.pow_le_pow_left big count
  have exact : |(basis : ℚ) ^ (count : Int)| = ((basis.natAbs ^ count : Nat) : ℚ) := by
    rw [zpow_natCast, abs_pow, ← Int.cast_abs, Int.abs_eq_natAbs, Int.cast_natCast, Nat.cast_pow]
  refine .inr ?_
  rw [exact]
  exact_mod_cast whole

theorem powerOutOfRange_iff_of_tooLarge {basis exponent : Int}
    (large : (Number.integer basis).TooLarge ∨ (Number.integer exponent).TooLarge) :
    PowerOutOfRange basis exponent ↔
      basis = 0 ∧ exponent < 0 ∨ 1 < basis.natAbs ∧ 0 < exponent := by
  refine ⟨PowerOutOfRange.grows, ?_⟩
  rintro (zero | ⟨big, positive⟩)
  · exact .inl zero
  · exact powerOutOfRange_of_grows big positive large

/-! ## Infinite results -/

namespace Binary64

theorem isInfinite_infinity : infinity.isInfinite = true :=
  rfl

theorem isInfinite_signed (sign : Float.Model.UnpackedFloat.Sign) :
    (infinity.signed sign).isInfinite = true := by
  cases sign <;> rfl

end Binary64

theorem givesInfinity_ok {x : Binary64} :
    GivesInfinity (.ok (.real x)) ↔ x.isInfinite = true := by
  constructor
  · rintro ⟨_, ⟨⟩, infinite⟩
    exact infinite
  · exact fun infinite => ⟨x, rfl, infinite⟩

theorem not_givesInfinity_error {failure : OutOfRange} : ¬ GivesInfinity (.error failure) := by
  rintro ⟨_, failed, _⟩
  cases failed

theorem givesInfinity_infinitePower_iff {basis exponent : Number} :
    GivesInfinity (Operator.infinitePower basis exponent) ↔
      ¬ Operator.power.Overflows basis exponent := by
  rw [← @Operator.infinitePower_eq_error_iff basis exponent {}, Operator.infinitePower]
  split
  next =>
    cases basis.toReal with
    | ok x => exact iff_of_true ⟨_, rfl, Binary64.isInfinite_signed x.sign⟩ pure_ne_error
    | error failure => exact iff_of_false not_givesInfinity_error fun passes => passes rfl
  next => exact iff_of_true ⟨_, rfl, Binary64.isInfinite_infinity⟩ pure_ne_error

/-- A power with an operand that does not convert is infinite or fails. -/
theorem power_of_tooLarge {basis exponent : Number}
    (large : basis.TooLarge ∨ exponent.TooLarge) :
    Operator.power.apply basis exponent = Operator.infinitePower basis exponent := by
  change Operator.raise basis exponent = _
  unfold Operator.raise
  split
  next x y first second =>
    rcases large with large | large
    · exact absurd large (Number.exists_toReal_iff.mp ⟨x, first⟩)
    · exact absurd large (Number.exists_toReal_iff.mp ⟨y, second⟩)
  next => rfl

/-- A power whose operands convert is infinite only if the power of the converted operands is, or
for a zero under a negative exponent. -/
theorem infinite_of_converted {basis exponent : Int} {x y : Binary64}
    (first : Binary64.ofInteger? basis = some x) (second : Binary64.ofInteger? exponent = some y)
    (infinite : GivesInfinity (Operator.power.apply (.integer basis) (.integer exponent))) :
    basis = 0 ∧ exponent < 0 ∨ (x.pow y).isInfinite = true := by
  change GivesInfinity (Operator.raise (.integer basis) (.integer exponent)) at infinite
  simp only [Operator.raise, Number.toReal, first, second] at infinite
  split at infinite
  next => exact .inr (givesInfinity_ok.mp infinite)
  next =>
    split at infinite
    next =>
      split at infinite
      next below =>
        simp only [Number.isZero, Number.isBelowZero, Bool.and_eq_true, beq_iff_eq,
          decide_eq_true_eq] at below
        exact .inl below
      next => exact absurd (givesInfinity_ok.mp infinite) Bool.false_ne_true
    next =>
      split at infinite
      next isInfinite => exact .inr isInfinite
      next => exact .inr (givesInfinity_ok.mp infinite)

/-- A function of real numbers on an integer is infinite if the integer does not convert, and
otherwise where it is on the converted integer. -/
theorem givesInfinity_onReals_iff {function : Float → Float} {argument : Int} :
    GivesInfinity (.ok (Builtin.onReals function (.integer argument))) ↔
      (Number.integer argument).TooLarge ∨ ∃ x, Binary64.ofInteger? argument = some x ∧
        GivesInfinity (.ok (Builtin.onReals function (.real x))) := by
  rw [Number.TooLarge, ← Binary64.ofInteger?_eq_none_iff, Builtin.onReals, Number.toReal]
  cases Binary64.ofInteger? argument with
  | none => exact iff_of_true ⟨_, rfl, Binary64.isInfinite_infinity⟩ (.inl rfl)
  | some x =>
      refine ⟨fun infinite => .inr ⟨x, rfl, infinite⟩, ?_⟩
      rintro (none | ⟨_, same, infinite⟩)
      · cases none
      · cases same
        exact infinite

/-- The functions that convert their argument before anything else. -/
def Builtin.convertsFirst : List Builtin :=
  [sin, cos, tan, sqrt, exp]

theorem givesInfinity_call_iff {function : Builtin} (converts : function ∈ Builtin.convertsFirst)
    {argument : Int} :
    GivesInfinity (function.apply .radians (.integer argument)) ↔
      (Number.integer argument).TooLarge ∨ ∃ x, Binary64.ofInteger? argument = some x ∧
        GivesInfinity (function.apply .radians (.real x)) := by
  simp only [Builtin.convertsFirst, List.mem_cons, List.not_mem_nil, or_false] at converts
  rcases converts with rfl | rfl | rfl | rfl | rfl <;> exact givesInfinity_onReals_iff

/-- **Integers give an infinity for a result out of range, and for an operand out of range.** A
power with such an operand is infinite unless it fails, and that is right exactly if the power grows
or divides by zero. Other powers are infinite only if the power of the converted operands is, or if
a zero has a negative exponent. A function that converts first is infinite on any argument that is
out of range. -/
theorem infinity_of_integers (basis exponent : Int) :
    ((Number.integer basis).TooLarge ∨ (Number.integer exponent).TooLarge →
      (GivesInfinity (Operator.power.apply (.integer basis) (.integer exponent)) ↔
        ¬ (exponent % 2 = 1 ∧ (Number.integer basis).TooLarge)) ∧
      (PowerOutOfRange basis exponent ↔
        basis = 0 ∧ exponent < 0 ∨ 1 < basis.natAbs ∧ 0 < exponent)) ∧
    (∀ x y, Binary64.ofInteger? basis = some x → Binary64.ofInteger? exponent = some y →
      GivesInfinity (Operator.power.apply (.integer basis) (.integer exponent)) →
        basis = 0 ∧ exponent < 0 ∨ (x.pow y).isInfinite = true) ∧
    ∀ function ∈ Builtin.convertsFirst,
      GivesInfinity (function.apply .radians (.integer exponent)) ↔
        (Number.integer exponent).TooLarge ∨ ∃ x, Binary64.ofInteger? exponent = some x ∧
          GivesInfinity (function.apply .radians (.real x)) := by
  refine ⟨fun large => ⟨?_, powerOutOfRange_iff_of_tooLarge large⟩,
    fun x y first second => infinite_of_converted first second,
    fun function converts => givesInfinity_call_iff converts⟩
  rw [power_of_tooLarge large, givesInfinity_infinitePower_iff, Operator.Overflows]
  simp only [Number.isOdd, decide_eq_true_eq]

/-- **One to the power of two to the power of 1024 is infinite**, and so are the exponential
function at the opposite of this exponent and the sine of it. -/
theorem infinite_in_range :
    GivesInfinity (Operator.power.apply (.integer 1) (.integer (2 ^ 1024))) ∧
      ¬ PowerOutOfRange 1 (2 ^ 1024) ∧
      GivesInfinity (Builtin.exp.apply .radians (.integer (-2 ^ 1024))) ∧
      GivesInfinity (Builtin.sin.apply .radians (.integer (2 ^ 1024))) := by
  have large : (Number.integer (2 ^ 1024)).TooLarge := by decide +kernel
  have below : (Number.integer (-2 ^ 1024)).TooLarge := by decide +kernel
  have fits : ¬ (Number.integer 1).TooLarge := by decide +kernel
  refine ⟨?_, fun outside => ?_, (givesInfinity_call_iff (by decide)).mpr (.inl below),
    (givesInfinity_call_iff (by decide)).mpr (.inl large)⟩
  · rw [power_of_tooLarge (.inr large), givesInfinity_infinitePower_iff]
    exact fun both => fits both.2
  · rcases outside.grows with ⟨zero, -⟩ | ⟨big, -⟩
    · exact absurd zero (by decide)
    · exact absurd big (by decide)

end InfixFormula
