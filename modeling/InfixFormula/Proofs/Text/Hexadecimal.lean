import InfixFormula.Text.Hexadecimal

/-!
# Reading hexadecimal numbers back

A number in hexadecimal is read back as itself, and if it is small enough for a width, its digits
fill this width exactly.
-/

set_option autoImplicit false

namespace InfixFormula.Text

theorem hexDigit?_digitChar : ∀ digit < 16, hexDigit? (Nat.digitChar digit) = some digit := by
  decide

/-- Reading more digits goes on from the number that is read. -/
theorem ofHexadecimal?_append (first second : List Char) :
    ofHexadecimal? (first ++ second) = (ofHexadecimal? first).bind fun start =>
      second.foldlM (fun number c => (hexDigit? c).map (16 * number + ·)) start := by
  rw [ofHexadecimal?, List.foldlM_append]
  rfl

theorem ofHexadecimal?_concat (digits : List Char) {digit : Nat} (small : digit < 16) :
    ofHexadecimal? (digits ++ [Nat.digitChar digit]) =
      (ofHexadecimal? digits).map (16 * · + digit) := by
  rw [ofHexadecimal?_append]
  cases ofHexadecimal? digits with
  | none => rfl
  | some start => simp [hexDigit?_digitChar digit small]

theorem ofHexadecimal?_toDigits (number : Nat) :
    ofHexadecimal? (Nat.toDigits 16 number) = some number := by
  induction number using Nat.strongRecOn with
  | ind number ih =>
      by_cases small : number < 16
      · rw [Nat.toDigits_of_lt_base small, ← List.nil_append [_], ofHexadecimal?_concat [] small]
        simp [ofHexadecimal?]
      · rw [Nat.toDigits_of_base_le (by decide) (Nat.le_of_not_lt small),
          ofHexadecimal?_concat _ (Nat.mod_lt number (by decide)), ih (number / 16) (by omega)]
        exact congrArg some (Nat.div_add_mod number 16)

/-- **A number in hexadecimal is read back as itself.** -/
theorem ofHexadecimal?_hexadecimal (width number : Nat) :
    ofHexadecimal? (hexadecimal width number) = some number := by
  have zeros (count : Nat) : ofHexadecimal? (List.replicate count '0') = some 0 := by
    induction count with
    | zero => rfl
    | succ count ih =>
        rw [List.replicate_succ', ofHexadecimal?_append, ih]
        rfl
  rw [hexadecimal, List.leftpad, ofHexadecimal?_append, zeros]
  exact ofHexadecimal?_toDigits number

theorem length_hexadecimal {width number : Nat} (positive : 0 < width)
    (small : number < Nat.pow 16 width) : (hexadecimal width number).length = width := by
  have short := (Nat.length_toDigits_le_iff (by decide) positive).mpr small
  rw [hexadecimal, List.length_leftpad]
  omega

end InfixFormula.Text
