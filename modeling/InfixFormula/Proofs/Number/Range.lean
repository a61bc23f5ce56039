import InfixFormula.Number.Binary64
import Mathlib

/-!
# The range of binary64 numbers

Rounding to the nearest value gives an infinity from `overflowThreshold` on. An integer is out of
range exactly if it is that far from zero (`ofInteger?_eq_none_iff`), and a quotient of integers
exactly if the dividend is as far from zero as the threshold times the divisor
(`quotient_isInfinite_iff`); so a quotient is out of range only if its dividend is.

Both come from one fact about rounding a mantissa (`isInf_round_iff`). A mantissa is shifted to
its 53 leading bits and rounded, which can make it one bit longer. Where the leading bit alone
does not decide whether the result is infinite, the mantissa has to be rounded up to a power of
two, and it is exactly if its 54 leading bits are all set.
-/

set_option autoImplicit false

namespace InfixFormula

open Float.Model
open Float.Model.UnpackedFloat

namespace Binary64

/-! ## The threshold -/

/-- Half way between the largest finite value and the power of two behind it: 54 bits that are
set, and then 970 that are not. -/
def overflowThreshold : Nat :=
  (2 ^ 54 - 1) <<< 970

theorem overflowThreshold_mul_two_pow (digits : Nat) :
    overflowThreshold * 2 ^ digits = (2 ^ 54 - 1) * 2 ^ (970 + digits) := by
  rw [overflowThreshold, ← Nat.shiftLeft_eq, ← Nat.shiftLeft_add, Nat.shiftLeft_eq]

theorem two_pow_le_overflowThreshold (digits : Nat) :
    2 ^ (1023 + digits) ≤ overflowThreshold * 2 ^ digits := by
  have split : 1023 + digits = 53 + (970 + digits) := by omega
  rw [overflowThreshold_mul_two_pow, split, Nat.pow_add 2 53]
  exact Nat.mul_le_mul_right _ (by decide)

theorem overflowThreshold_le_two_pow (digits : Nat) :
    overflowThreshold * 2 ^ digits ≤ 2 ^ (1024 + digits) := by
  have split : 1024 + digits = 54 + (970 + digits) := by omega
  rw [overflowThreshold_mul_two_pow, split, Nat.pow_add 2 54]
  exact Nat.mul_le_mul_right _ (by decide)

theorem two_pow_lt_overflowThreshold : 2 ^ 105 < overflowThreshold := by
  decide

theorem log2_le {number bits : Nat} (short : number < 2 ^ (bits + 1)) : number.log2 ≤ bits := by
  rcases Nat.eq_zero_or_pos number with rfl | positive
  · exact Nat.zero_le bits
  · exact Nat.le_of_lt_succ ((Nat.log2_lt (Nat.ne_of_gt positive)).2 short)

/-! ## Shifting and rounding a mantissa -/

theorem mantissa_ofMantissaAndAccuracy (mantissa : Nat) (accuracy : Accuracy) :
    (ExtendedMantissa.ofMantissaAndAccuracy mantissa accuracy).mantissa = mantissa := by
  rcases accuracy with _ | (_ | _ | _) <;> rfl

theorem mantissa_shiftRight (extended : ExtendedMantissa) (count : Nat) :
    (extended >>> count).mantissa = extended.mantissa / 2 ^ count := by
  induction count with
  | zero => exact (Nat.div_one _).symm
  | succ count ih =>
      calc (extended >>> (count + 1)).mantissa = (extended >>> count).mantissa / 2 := rfl
        _ = extended.mantissa / 2 ^ count / 2 := by rw [ih]
        _ = extended.mantissa / 2 ^ (count + 1) := by rw [Nat.div_div_eq_div_mul, Nat.pow_succ]

theorem mantissa_le_roundedMantissa (extended : ExtendedMantissa) :
    extended.mantissa ≤ extended.roundedMantissa := by
  rcases extended with ⟨mantissa, _ | _, _ | _⟩
  · exact Nat.le_refl mantissa
  · exact Nat.le_refl mantissa
  · exact Nat.le_add_right mantissa _
  · exact Nat.le_succ mantissa

theorem roundedMantissa_le (extended : ExtendedMantissa) :
    extended.roundedMantissa ≤ extended.mantissa + 1 := by
  rcases extended with ⟨mantissa, _ | _, _ | _⟩
  · exact Nat.le_succ mantissa
  · exact Nat.le_succ mantissa
  · exact Nat.add_le_add_left (Nat.le_of_lt_succ (Nat.mod_lt mantissa Nat.two_pos)) mantissa
  · exact Nat.le_refl (mantissa + 1)

/-- A mantissa is rounded up to the power of two behind it exactly if all of its bits are set, the
last one before the rounding included. -/
theorem le_roundedMantissa_shiftRightOne_iff {extended : ExtendedMantissa} {quarter : Nat}
    (below : extended.mantissa < 4 * quarter) :
    2 * quarter ≤ extended.shiftRightOne.roundedMantissa ↔
      4 * quarter - 1 ≤ extended.mantissa := by
  obtain ⟨mantissa, roundBit, stickyBit⟩ := extended
  simp only [ExtendedMantissa.shiftRightOne] at below ⊢
  rcases Nat.mod_two_eq_zero_or_one mantissa with even | odd
  · have bit : (mantissa % 2 != 0) = false := by rw [even]; rfl
    cases sticky : roundBit || stickyBit <;>
      simp only [bit, ExtendedMantissa.roundedMantissa, ExtendedMantissa.accuracy,
        Accuracy.roundToNearestEven] <;>
      omega
  · -- A tie is rounded up as well, since half of the mantissa would be odd.
    have bit : (mantissa % 2 != 0) = true := by rw [odd]; rfl
    cases sticky : roundBit || stickyBit <;>
      simp only [bit, ExtendedMantissa.roundedMantissa, ExtendedMantissa.accuracy,
        Accuracy.roundToNearestEven] <;>
      omega

/-! ## The shift to 53 bits -/

theorem shiftToTargetExponent_eq (mantissa : Nat) (exponent : Int) (accuracy : Accuracy) :
    shiftToTargetExponent .binary64 mantissa exponent accuracy =
      let shift := (max (mantissa.log2 + exponent - 52) (-1074) - exponent).toNat
      (ExtendedMantissa.ofMantissaAndAccuracy mantissa accuracy >>> shift, exponent + shift) := by
  have target : Format.binary64.targetExponent (totalExponent mantissa exponent) =
      max (mantissa.log2 + exponent - 52) (-1074) := by
    change max ((mantissa.log2 : Int) + 1 + exponent - 53) (-1074) = _
    omega
  rw [shiftToTargetExponent, target]
  rfl

theorem mantissa_shiftToTargetExponent (mantissa : Nat) (exponent : Int) (accuracy : Accuracy) :
    (shiftToTargetExponent .binary64 mantissa exponent accuracy).1.mantissa =
      mantissa / 2 ^ (max (mantissa.log2 + exponent - 52) (-1074) - exponent).toNat := by
  rw [shiftToTargetExponent_eq, mantissa_shiftRight, mantissa_ofMantissaAndAccuracy]

theorem exponent_shiftToTargetExponent (mantissa : Nat) (exponent : Int) (accuracy : Accuracy) :
    (shiftToTargetExponent .binary64 mantissa exponent accuracy).2 =
      max exponent (max (mantissa.log2 + exponent - 52) (-1074)) := by
  rw [shiftToTargetExponent_eq]
  dsimp only
  omega

theorem roundedMantissa_shiftToTargetExponent_le (mantissa : Nat) (exponent : Int)
    (accuracy : Accuracy) :
    (shiftToTargetExponent .binary64 mantissa exponent accuracy).1.roundedMantissa ≤ 2 ^ 53 := by
  refine Nat.le_trans (roundedMantissa_le _) ?_
  rw [mantissa_shiftToTargetExponent, Nat.succ_le_iff, Nat.div_lt_iff_lt_mul (Nat.two_pow_pos _),
    ← Nat.pow_add]
  exact Nat.lt_of_lt_of_le Nat.lt_log2_self (Nat.pow_le_pow_right Nat.two_pos (by omega))

/-- A mantissa keeps its leading bit in a shift, if that bit has a place in the format. -/
theorem mantissa_shiftToTargetExponent_pos {mantissa : Nat} (nonzero : mantissa ≠ 0)
    {exponent : Int} (placed : -1074 ≤ mantissa.log2 + exponent) (accuracy : Accuracy) :
    0 < (shiftToTargetExponent .binary64 mantissa exponent accuracy).1.mantissa := by
  rw [mantissa_shiftToTargetExponent]
  refine Nat.div_pos (Nat.le_trans ?_ (Nat.log2_self_le nonzero)) (Nat.two_pow_pos _)
  exact Nat.pow_le_pow_right Nat.two_pos (by omega)

/-- A rounded mantissa is zero, or its length and the exponent of the first shift decide the
exponent of the result. -/
theorem roundWithAccuracy_cases (sign : Sign) (mantissa : Nat) (exponent : Int)
    (accuracy : Accuracy) {rounded : Nat} {scale : Int}
    (roundedEq : (shiftToTargetExponent .binary64 mantissa exponent accuracy).1.roundedMantissa =
      rounded)
    (scaleEq : (shiftToTargetExponent .binary64 mantissa exponent accuracy).2 = scale) :
    (rounded = 0 ∧
        roundWithAccuracy .binary64 sign mantissa exponent accuracy = .zero sign) ∨
      (rounded ≠ 0 ∧ ∃ final positive,
        roundWithAccuracy .binary64 sign mantissa exponent accuracy =
          .finite sign final (max scale (rounded.log2 + scale - 52)) positive) := by
  have low : -1074 ≤ scale := by
    rw [← scaleEq, exponent_shiftToTargetExponent]
    omega
  simp only [roundWithAccuracy, roundedEq, scaleEq]
  by_cases zero : rounded = 0
  · refine .inl ⟨zero, dif_pos ?_⟩
    rw [mantissa_shiftToTargetExponent, zero, Nat.zero_div]
  · have placed : -1074 ≤ rounded.log2 + scale := by omega
    have kept := mantissa_shiftToTargetExponent_pos zero placed .exact
    have level : (shiftToTargetExponent .binary64 rounded scale .exact).2 =
        max scale (rounded.log2 + scale - 52) := by
      rw [exponent_shiftToTargetExponent]
      omega
    refine .inr ⟨zero, _, kept, ?_⟩
    rw [dif_neg (Nat.ne_of_gt kept)]
    simp only [level]

/-! ## Values in memory -/

theorem isInf_packComponents (sign : Sign) (exponent : BitVec 11) (mantissa : BitVec 52) :
    (UnpackedFloat.unpack .binary64
        (packComponents .binary64 sign exponent mantissa)).isInf = true ↔
      exponent = -1#11 ∧ mantissa = 0#52 := by
  simp only [UnpackedFloat.unpack, unpackExponent_packComponents, unpackMantissa_packComponents]
  by_cases largest : exponent = -1#11
  · rw [if_pos largest]
    by_cases zero : mantissa = 0#52
    · rw [if_pos zero]
      exact iff_of_true rfl ⟨largest, zero⟩
    · rw [if_neg zero]
      exact iff_of_false Bool.false_ne_true fun both => zero both.2
  · rw [if_neg largest]
    refine iff_of_false ?_ fun both => largest both.1
    split
    next => split <;> exact Bool.false_ne_true
    next => exact Bool.false_ne_true

theorem isInf_pack_zero (sign : Sign) : (Float.ofModel (.pack (.zero sign))).isInf = false := by
  cases sign <;> rfl

/-- A rounded value is stored as an infinity exactly if its exponent does not fit. -/
theorem isInf_pack_finite_iff (sign : Sign) (mantissa : Nat) (exponent : Int)
    (positive : 0 < mantissa) :
    (Float.ofModel (.pack (.finite sign mantissa exponent positive))).isInf = true ↔
      972 ≤ exponent := by
  change (UnpackedFloat.unpack .binary64
    (UnpackedFloat.pack .binary64 (.finite sign mantissa exponent positive))).isInf = true ↔ _
  rw [UnpackedFloat.pack]
  dsimp only
  split
  next large =>
    change 2048 ≤ (exponent + 1023 + 52).toNat + 1 at large
    rw [packedInfinity, isInf_packComponents]
    exact iff_of_true ⟨rfl, rfl⟩ (by omega)
  next fits =>
    change ¬ 2048 ≤ (exponent + 1023 + 52).toNat + 1 at fits
    refine iff_of_false ?_ (by omega)
    split
    next =>
      rw [isInf_packComponents]
      rintro ⟨largest, -⟩
      have same := congrArg BitVec.toNat largest
      change (exponent + 1023 + 52).toNat % 2048 = 2047 at same
      omega
    next =>
      rw [isInf_packComponents]
      exact fun both => absurd both.1 (by decide)

/-- The mantissa and the exponent of a value in memory. -/
theorem finite_of_unpack {bits : BitVec 64} {sign : Sign} {mantissa : Nat} {exponent : Int}
    {positive : 0 < mantissa}
    (unpacked : UnpackedFloat.unpack .binary64 bits = .finite sign mantissa exponent positive) :
    mantissa < 2 ^ 53 ∧ (@unpackExponent .binary64 bits).toNat < 2047 ∧
      exponent ≤
        max ((@unpackExponent .binary64 bits).toNat - 1075 : Int) (-1074) := by
  rw [UnpackedFloat.unpack] at unpacked
  dsimp only at unpacked
  split at unpacked
  next => split at unpacked <;> cases unpacked
  next ordinary =>
    have fits : (@unpackExponent .binary64 bits).toNat < 2047 := by
      have wide := (@unpackExponent .binary64 bits).isLt
      have other : (@unpackExponent .binary64 bits).toNat ≠ 2047 := fun same =>
        ordinary (BitVec.eq_of_toNat_eq same)
      change _ < 2048 at wide
      omega
    split at unpacked
    next zero =>
      split at unpacked
      next => cases unpacked
      next =>
        cases unpacked
        refine ⟨Nat.lt_trans (BitVec.isLt _) (by decide), fits, ?_⟩
        rw [zero]
        decide
    next =>
      cases unpacked
      exact ⟨BitVec.isLt _, fits, Int.le_max_left _ _⟩

/-- Storing a value does not make its exponent larger. -/
theorem exponent_le_of_unpack_pack {sign other : Sign} {mantissa final : Nat}
    {exponent scale : Int} (positive : 0 < mantissa) {nonzero : 0 < final}
    (unpacked : UnpackedFloat.unpack .binary64
      (UnpackedFloat.pack .binary64 (.finite sign mantissa exponent positive)) =
        .finite other final scale nonzero) :
    scale ≤ max exponent (-1074) := by
  obtain ⟨-, fits, limited⟩ := finite_of_unpack unpacked
  refine Int.le_trans limited ?_
  revert fits
  rw [UnpackedFloat.pack]
  dsimp only
  split
  next =>
    rw [packedInfinity, unpackExponent_packComponents]
    exact fun fits => absurd fits (by decide)
  next =>
    split
    next =>
      rw [unpackExponent_packComponents, BitVec.toNat_ofNat]
      change _ → max (((exponent + 1023 + 52).toNat % 2048 : Nat) - 1075 : Int) _ ≤ _
      omega
    next =>
      rw [unpackExponent_packComponents]
      exact fun _ => Int.le_max_right exponent (-1074)

theorem isInf_neg (x : Float) : (-x).isInf = x.isInf := by
  change (Float.ofModel (.pack x.toModel.unpack.neg)).isInf = x.toModel.unpack.isInf
  cases unpacked : x.toModel.unpack with
  | notANumber => rfl
  | infinity sign => cases sign <;> rfl
  | zero sign => cases sign <;> rfl
  | finite sign mantissa exponent positive =>
      obtain ⟨-, fits, limited⟩ := finite_of_unpack unpacked
      change (Float.ofModel (.pack (.finite (-sign) mantissa exponent positive))).isInf = false
      rw [Bool.eq_false_iff, ne_eq, isInf_pack_finite_iff]
      omega

theorem isInfinite_ofFloat (sign : Sign) (x : Float) : (ofFloat sign x).isInfinite = x.isInf := by
  rw [ofFloat]
  split
  next => rfl
  next unordered =>
    change false = x.toModel.unpack.isInf
    change ¬ x.toModel.unpack.isNaN = false at unordered
    cases unpacked : x.toModel.unpack with
    | infinity sign =>
        rw [unpacked] at unordered
        exact absurd rfl unordered
    | _ => rfl

/-! ## Rounding to an infinity -/

/-- Where the leading bit is at the place of the threshold, the value rounds up to the next power
of two exactly from the threshold on. -/
theorem two_pow_le_roundedMantissa_iff {mantissa digits : Nat}
    (edge : mantissa.log2 = 1023 + digits) (accuracy : Accuracy) :
    2 ^ 53 ≤
        (shiftToTargetExponent .binary64 mantissa (-digits) accuracy).1.roundedMantissa ↔
      overflowThreshold * 2 ^ digits ≤ mantissa := by
  let extended := ExtendedMantissa.ofMantissaAndAccuracy mantissa accuracy >>> (970 + digits)
  have leading : extended.mantissa = mantissa / 2 ^ (970 + digits) := by
    rw [mantissa_shiftRight, mantissa_ofMantissaAndAccuracy]
  have below : extended.mantissa < 4 * 2 ^ 52 := by
    have split : mantissa.log2 + 1 = 54 + (970 + digits) := by omega
    rw [leading, Nat.div_lt_iff_lt_mul (Nat.two_pow_pos _)]
    calc mantissa < 2 ^ (mantissa.log2 + 1) := Nat.lt_log2_self
      _ = 2 ^ 54 * 2 ^ (970 + digits) := by rw [split, Nat.pow_add]
  have shift : (max ((mantissa.log2 : Int) + -digits - 52) (-1074) - -digits).toNat =
      970 + digits + 1 := by omega
  rw [shiftToTargetExponent_eq, shift]
  calc 2 ^ 53 ≤ extended.shiftRightOne.roundedMantissa
      ↔ 4 * 2 ^ 52 - 1 ≤ extended.mantissa := le_roundedMantissa_shiftRightOne_iff below
    _ ↔ (4 * 2 ^ 52 - 1) * 2 ^ (970 + digits) ≤ mantissa := by
        rw [leading, Nat.le_div_iff_mul_le (Nat.two_pow_pos _)]
    _ ↔ (2 ^ 54 - 1) * 2 ^ (970 + digits) ≤ mantissa := Iff.rfl
    _ ↔ overflowThreshold * 2 ^ digits ≤ mantissa := by rw [overflowThreshold_mul_two_pow]

/-- The result is infinite by the exponent of the first shift, or by that of the second. -/
theorem isInf_roundWithAccuracy_iff (sign : Sign) (mantissa : Nat) (exponent : Int)
    (accuracy : Accuracy) {rounded : Nat} {scale : Int}
    (roundedEq : (shiftToTargetExponent .binary64 mantissa exponent accuracy).1.roundedMantissa =
      rounded)
    (scaleEq : (shiftToTargetExponent .binary64 mantissa exponent accuracy).2 = scale) :
    (Float.ofModel
        (.pack (roundWithAccuracy .binary64 sign mantissa exponent accuracy))).isInf = true ↔
      rounded ≠ 0 ∧ (972 ≤ scale ∨ 1024 ≤ rounded.log2 + scale) := by
  rcases roundWithAccuracy_cases sign mantissa exponent accuracy roundedEq scaleEq with
    ⟨zero, made⟩ | ⟨nonzero, final, positive, made⟩
  · rw [made, isInf_pack_zero]
    exact iff_of_false Bool.false_ne_true fun both => both.1 zero
  · rw [made, isInf_pack_finite_iff]
    omega

/-- **A mantissa rounds to an infinity exactly from the threshold on**, however much of it is
behind the point. -/
theorem isInf_round_iff (sign : Sign) (mantissa digits : Nat) (accuracy : Accuracy) :
    (Float.ofModel
        (.pack (roundWithAccuracy .binary64 sign mantissa (-digits) accuracy))).isInf = true ↔
      overflowThreshold * 2 ^ digits ≤ mantissa := by
  have scaleEq := exponent_shiftToTargetExponent mantissa (-digits) accuracy
  have upper := roundedMantissa_shiftToTargetExponent_le mantissa (-digits) accuracy
  have length := log2_le (Nat.lt_of_le_of_lt upper (by decide : 2 ^ 53 < 2 ^ (53 + 1)))
  rw [isInf_roundWithAccuracy_iff sign mantissa (-digits) accuracy rfl scaleEq]
  rcases Nat.lt_trichotomy mantissa.log2 (1023 + digits) with small | edge | large
  · -- Even one bit longer, the mantissa is below the largest power of two.
    refine iff_of_false (by omega) (Nat.not_le_of_gt ?_)
    calc mantissa < 2 ^ (mantissa.log2 + 1) := Nat.lt_log2_self
      _ ≤ 2 ^ (1023 + digits) := Nat.pow_le_pow_right Nat.two_pos small
      _ ≤ overflowThreshold * 2 ^ digits := two_pow_le_overflowThreshold digits
  · rw [← two_pow_le_roundedMantissa_iff edge accuracy]
    generalize (shiftToTargetExponent .binary64 mantissa (-digits) accuracy).1.roundedMantissa =
      rounded
    rcases Nat.eq_zero_or_pos rounded with rfl | positive
    · exact iff_of_false (fun both => both.1 rfl) (by decide)
    · rw [← Nat.le_log2 (Nat.ne_of_gt positive)]
      omega
  · have nonzero : mantissa ≠ 0 := by
      rintro rfl
      rw [Nat.log2_zero] at large
      exact absurd large (Nat.not_lt_zero _)
    have placed : -1074 ≤ (mantissa.log2 : Int) + -digits := by omega
    have kept := mantissa_shiftToTargetExponent_pos nonzero placed accuracy
    have rounded := Nat.lt_of_lt_of_le kept (mantissa_le_roundedMantissa _)
    refine iff_of_true ⟨Nat.ne_of_gt rounded, by omega⟩ ?_
    calc overflowThreshold * 2 ^ digits ≤ 2 ^ (1024 + digits) :=
          overflowThreshold_le_two_pow digits
      _ ≤ 2 ^ mantissa.log2 := Nat.pow_le_pow_right Nat.two_pos (by omega)
      _ ≤ mantissa := Nat.log2_self_le nonzero

/-! ## Exact numbers -/

theorem unrounded_zero : unrounded 0 = .zero .positive :=
  rfl

theorem unrounded_of_ne_zero {number : Int} (nonzero : number ≠ 0) :
    ∃ sign, unrounded number = .finite sign number.natAbs 0 (Int.natAbs_pos.2 nonzero) :=
  ⟨_, dif_pos (Int.natAbs_pos.2 nonzero)⟩

/-- **A quotient of integers is out of range exactly if the dividend reaches the threshold times
the divisor.** -/
theorem quotient_isInfinite_iff {dividend divisor : Int} (nonzero : divisor ≠ 0) :
    (quotient dividend divisor).isInfinite = true ↔
      overflowThreshold * divisor.natAbs ≤ dividend.natAbs := by
  have positive := Int.natAbs_pos.2 nonzero
  obtain ⟨sign, below⟩ := unrounded_of_ne_zero nonzero
  rw [quotient, isInfinite_ofFloat, below]
  by_cases zero : dividend = 0
  · have threshold : 0 < overflowThreshold * divisor.natAbs :=
      Nat.mul_pos (Nat.zero_lt_of_lt two_pow_lt_overflowThreshold) positive
    rw [zero, unrounded_zero, UnpackedFloat.div, isInf_pack_zero]
    exact iff_of_false Bool.false_ne_true (Nat.not_le_of_gt threshold)
  · obtain ⟨other, above⟩ := unrounded_of_ne_zero zero
    simp only [above, UnpackedFloat.div, divCore]
    generalize Format.targetExponent _ _ = target
    obtain ⟨digits, places⟩ : ∃ digits : Nat, min ((0 : Int) - 0) target = -digits :=
      ⟨(-target).toNat, by omega⟩
    have shift : ((0 : Int) - 0 - -digits).toNat = digits := by omega
    rw [places, shift, isInf_round_iff, Nat.le_div_iff_mul_le positive, Nat.shiftLeft_eq,
      Nat.mul_right_comm, Nat.mul_le_mul_right_iff (Nat.two_pow_pos digits)]

/-- Filling a mantissa up to 53 bits does not make it longer. -/
theorem log2_shiftLeft_le {number : Nat} (short : number.log2 ≤ 52) :
    (number <<< (52 - number.log2)).log2 ≤ 52 := by
  have split : number.log2 + 1 + (52 - number.log2) = 52 + 1 := by omega
  refine log2_le ?_
  rw [Nat.shiftLeft_eq, ← split, Nat.pow_add]
  exact Nat.mul_lt_mul_of_pos_right Nat.lt_log2_self (Nat.two_pow_pos _)

/-- A small integer is stored with an exponent that is at most one. -/
theorem ofUInt64_cases {number : Nat} (small : number < 2 ^ 53) :
    UnpackedFloat.ofUInt64 .binary64 number.toUInt64 = .zero .positive ∨
      ∃ mantissa exponent positive,
        UnpackedFloat.ofUInt64 .binary64 number.toUInt64 =
          .finite .positive mantissa exponent positive ∧ exponent ≤ 1 := by
  have back : number.toUInt64.toNat = number :=
    Nat.mod_eq_of_lt (Nat.lt_trans small (by decide))
  rw [UnpackedFloat.ofUInt64, back, UnpackedFloat.ofNat, UnpackedFloat.ofInt,
    UnpackedFloat.normalize]
  rcases Nat.eq_zero_or_pos number with rfl | positive
  · exact .inl rfl
  · have sort : compare (number : Int) 0 = .gt := Int.compare_eq_gt.2 (by omega)
    have short : number.log2 ≤ 52 := log2_le small
    have filled : (0 - Format.binary64.targetExponent (totalExponent number 0)).toNat =
        52 - number.log2 := by
      change (0 - max ((number.log2 : Int) + 1 + 0 - 53) (-1074)).toNat = _
      omega
    rw [sort]
    dsimp only [UnpackedFloat.round, decreaseExponent]
    rw [Int.toNat_natCast, filled]
    have length := log2_shiftLeft_le short
    generalize number <<< (52 - number.log2) = mantissa at length
    have upper :=
      roundedMantissa_shiftToTargetExponent_le mantissa (0 - (52 - number.log2 : Nat)) .exact
    have roundedLength := log2_le (Nat.lt_of_le_of_lt upper (by decide : _ < 2 ^ (53 + 1)))
    have scaleEq :=
      exponent_shiftToTargetExponent mantissa (0 - (52 - number.log2 : Nat)) .exact
    rcases roundWithAccuracy_cases .positive mantissa (0 - (52 - number.log2 : Nat)) .exact rfl
      scaleEq with ⟨-, made⟩ | ⟨-, final, positive, made⟩
    · exact .inl made
    · exact .inr ⟨final, _, positive, made, by omega⟩

/-- An integer below the first that is not stored exactly is multiplied with one. -/
theorem isInf_ofNat_of_small {number : Nat} (small : number < 2 ^ 53) :
    (Float.ofNat number).isInf = false := by
  have one : Float.exactlyRepresentablePowersOfTen[0].toModel.unpack =
      .finite .positive (2 ^ 52) (-52) (Nat.two_pow_pos 52) := rfl
  have fast : Float.ofNat number =
      number.toUInt64.toFloat * Float.exactlyRepresentablePowersOfTen[0] := by
    change Float.ofScientific number false 0 = _
    rw [Float.ofScientific, dif_pos ⟨small, Nat.zero_le 22⟩]
    rfl
  rw [fast]
  change (Float.ofModel (.pack (UnpackedFloat.mul .binary64
    (Float.Model.pack (UnpackedFloat.ofUInt64 .binary64 number.toUInt64)).unpack
    Float.exactlyRepresentablePowersOfTen[0].toModel.unpack))).isInf = false
  rw [one]
  rcases ofUInt64_cases small with zero | ⟨mantissa, exponent, positive, made, low⟩
  · rw [zero]
    rfl
  · rw [made]
    cases unpacked : (Float.Model.pack (.finite .positive mantissa exponent positive)).unpack with
    | notANumber => rfl
    | zero sign => cases sign <;> rfl
    | infinity sign =>
        have large := (isInf_pack_finite_iff .positive mantissa exponent positive).1
          (congrArg UnpackedFloat.isInf unpacked)
        omega
    | finite sign final scale nonzero =>
        have limited := exponent_le_of_unpack_pack positive unpacked
        obtain ⟨short, -⟩ := finite_of_unpack unpacked
        obtain ⟨digits, places⟩ : ∃ digits : Nat, scale + -52 = -digits :=
          ⟨(52 - scale).toNat, by omega⟩
        rw [UnpackedFloat.mul, places, Bool.eq_false_iff, ne_eq, isInf_round_iff, Nat.not_le]
        calc final * 2 ^ 52 < 2 ^ 53 * 2 ^ 52 :=
              Nat.mul_lt_mul_of_pos_right short (Nat.two_pow_pos 52)
          _ ≤ overflowThreshold := Nat.le_of_lt two_pow_lt_overflowThreshold
          _ ≤ overflowThreshold * 2 ^ digits :=
              Nat.le_mul_of_pos_right _ (Nat.two_pow_pos digits)

theorem isInf_ofNat_iff (number : Nat) :
    (Float.ofNat number).isInf = true ↔ overflowThreshold ≤ number := by
  by_cases small : number < 2 ^ 53
  · have short : number < overflowThreshold :=
      Nat.lt_trans small (Nat.lt_trans (by decide) two_pow_lt_overflowThreshold)
    rw [isInf_ofNat_of_small small]
    exact iff_of_false Bool.false_ne_true (Nat.not_le_of_gt short)
  · have slow : Float.ofNat number = .ofModel (.ofScientific number 0) := by
      change Float.ofScientific number false 0 = _
      rw [Float.ofScientific, dif_neg fun both => small both.1]
      rfl
    have nonzero : number ≠ 0 := by omega
    have near : ¬ (0 : Int) < -(2 ^ 11 + number.log2) := by omega
    rw [slow, Float.Model.ofScientific, UnpackedFloat.ofScientific, dif_neg nonzero,
      if_neg (by decide), if_neg near, if_pos (Int.le_refl 0), UnpackedFloat.mul,
      Nat.shiftLeft_eq]
    change (Float.ofModel (.pack (roundWithAccuracy .binary64 .positive
      (number * 2 ^ 53 * 1) (-(53 : Nat)) .exact))).isInf = true ↔ _
    rw [isInf_round_iff, Nat.mul_one, Nat.mul_le_mul_right_iff (Nat.two_pow_pos 53)]

theorem isInf_ofInt_iff (number : Int) :
    (Float.ofInt number).isInf = true ↔ overflowThreshold ≤ number.natAbs := by
  cases number with
  | ofNat number => exact isInf_ofNat_iff number
  | negSucc number =>
      change (-Float.ofNat (number + 1)).isInf = true ↔ _
      rw [isInf_neg, isInf_ofNat_iff, Int.natAbs_negSucc]

/-- **An integer is out of range exactly from the threshold on**, on either side of zero. -/
theorem ofInteger?_eq_none_iff (number : Int) :
    ofInteger? number = none ↔ overflowThreshold ≤ number.natAbs := by
  rw [← isInf_ofInt_iff, ofInteger?, isInfinite_ofFloat]
  cases (Float.ofInt number).isInf with
  | true => exact iff_of_true rfl rfl
  | false => simp

end Binary64

end InfixFormula
