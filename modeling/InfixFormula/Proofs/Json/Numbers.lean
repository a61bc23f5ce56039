import InfixFormula.Proofs.Json.Indented
import InfixFormula.Proofs.Json.Scanning

/-!
# Scanning numbers

An integer is written in decimal digits, perhaps behind a sign, and its word is scanned as the
integer, if it has no more digits than are read (`wordTokens_integerText`). A real number has a
point, an exponent or a name, and so it is never taken for an integer with too many digits
(`overlong_notMem_real`). No character of a number ends a word, whatever the layout of real numbers
(`inNumber_numberText`), so the text of a number is scanned as a whole.
-/

set_option autoImplicit false

namespace InfixFormula.Json

/-! ## Digits -/

theorem head?_toDigits_ne_zero {number : Nat} (positive : 0 < number) :
    (Nat.toDigits 10 number).head? ≠ some '0' := by
  induction number using Nat.strongRecOn with
  | ind number ih =>
      by_cases small : number < 10
      · have visible : ∀ digit < 10, 0 < digit → Nat.digitChar digit ≠ '0' := by decide
        rw [Nat.toDigits_of_lt_base small]
        exact fun same => visible number small positive (Option.some.inj same)
      · rw [Nat.toDigits_of_base_le (by decide) (Nat.le_of_not_lt small), List.head?_append,
          List.head?_eq_some_head Nat.toDigits_ne_nil, Option.some_or, ← List.head?_eq_some_head]
        exact ih (number / 10) (by omega) (by omega)

theorem isDigit_of_mem_toDigits {number : Nat} {c : Char} (member : c ∈ Nat.toDigits 10 number) :
    c.isDigit = true :=
  Nat.isDigit_of_mem_toDigits (by decide) (by decide) member

theorem wholePart_toDigits (number : Nat) :
    wholePart (Nat.toDigits 10 number) = Nat.toDigits 10 number := by
  have digits : (Nat.toDigits 10 number).takeWhile Char.isDigit = Nat.toDigits 10 number := by
    rw [← List.append_nil (Nat.toDigits 10 number),
      List.takeWhile_append_of_pos fun c => isDigit_of_mem_toDigits]
    rfl
  rw [wholePart, digits]
  split
  next zero =>
    rcases Nat.eq_zero_or_pos number with rfl | positive
    · rfl
    · exact absurd zero (head?_toDigits_ne_zero positive)
  next => rfl

theorem ofDigits_toDigits (number : Nat) : Numeral.ofDigits (Nat.toDigits 10 number) = number := by
  rw [Numeral.ofDigits, ← Nat.ofDigitChars_eq_foldl, Nat.ofDigitChars_ten_toDigits]

/-! ## Integers -/

/-- A word of digits and signs is no constant. -/
theorem wordTokens_of_numeric {word : List Char}
    (numeric : (word.all fun c => c.isDigit || c = '-') = true) :
    wordTokens word = numberTokens word := by
  rw [wordTokens]
  split
  case h_7 => rfl
  all_goals
    next constant =>
    have same := congrArg String.toList constant
    rw [String.toList_ofList] at same
    rw [same] at numeric
    exact absurd numeric (by decide)

theorem integerText_numeric (value : Int) :
    ((integerText value).toList.all fun c => c.isDigit || c = '-') = true := by
  have digits : ((Nat.toDigits 10 value.natAbs).all fun c => c.isDigit || c = '-') = true := by
    rw [List.all_eq_true]
    intro c member
    rw [isDigit_of_mem_toDigits member, Bool.true_or]
  rw [integerText, String.toList_ofList]
  split
  next => exact digits
  next => exact digits

/-- **An integer is scanned back**, if it has no more digits than are read. -/
theorem wordTokens_integerText {value : Int}
    (readable : (Nat.toDigits 10 value.natAbs).length ≤ integerDigitLimit) :
    wordTokens (integerText value).toList = [.scalar (.number (.integer value))] := by
  rw [wordTokens_of_numeric (integerText_numeric value), integerText, String.toList_ofList]
  have whole := wholePart_toDigits value.natAbs
  have nonempty : Nat.toDigits 10 value.natAbs ≠ [] := Nat.toDigits_ne_nil
  have size := ofDigits_toDigits value.natAbs
  have unsigned : ∀ rest, Nat.toDigits 10 value.natAbs ≠ '-' :: rest := by
    intro rest same
    have sign : '-' ∈ Nat.toDigits 10 value.natAbs := by
      rw [same]
      exact List.mem_cons_self
    exact absurd (isDigit_of_mem_toDigits sign) (by decide)
  generalize Nat.toDigits 10 value.natAbs = digits at readable whole nonempty size unsigned ⊢
  by_cases negative : value < 0
  · have signed : -(Numeral.ofDigits digits : Int) = value := by omega
    simp [numberTokens, magnitudeTokens, negative, whole, nonempty, signed, fractionPart?,
      exponentPart?, Nat.not_lt.mpr readable]
  · have plain : (Numeral.ofDigits digits : Int) = value := by omega
    simp [numberTokens, magnitudeTokens, negative, whole, nonempty, plain, fractionPart?,
      exponentPart?, Nat.not_lt.mpr readable]

/-! ## The characters of numbers -/

/-- The characters that end a word. -/
def wordEnds : List Char :=
  [' ', '\t', '\n', '\r', '\x22', '[', ']', '\x7b', '\x7d', ',', ':']

theorem mem_wordEnds_of_endsWord {c : Char} (ends : endsWord c = true) : c ∈ wordEnds := by
  simp only [endsWord, Bool.or_eq_true, decide_eq_true_eq] at ends
  rcases ends with (blank | rfl) | mark
  · simp only [Scan.isSpace, Bool.or_eq_true, decide_eq_true_eq] at blank
    rcases blank with ((rfl | rfl) | rfl) | rfl <;> decide
  · decide
  · revert mark
    fun_cases Scan.punctuation? c <;> simp [wordEnds]

/-- The characters of numbers besides the digits. -/
def numberMarks : List Char :=
  ['+', '-', '.', 'e', 'N', 'a', 'I', 'n', 'f', 'i', 't', 'y']

/-- Whether a character may stand in a number. -/
def inNumber (c : Char) : Bool :=
  c.isDigit || numberMarks.contains c

theorem endsWord_of_inNumber {c : Char} (inside : inNumber c = true) : endsWord c = false := by
  rw [Bool.eq_false_iff]
  intro ends
  have apart : (wordEnds.all fun c => !inNumber c) = true := by decide
  have outside := List.all_eq_true.mp apart c (mem_wordEnds_of_endsWord ends)
  rw [inside] at outside
  cases outside

theorem inNumber_of_mem_toDigits {number : Nat} {c : Char} (member : c ∈ Nat.toDigits 10 number) :
    inNumber c = true := by
  rw [inNumber, isDigit_of_mem_toDigits member, Bool.true_or]

theorem inNumber_replicate (count : Nat) : ∀ c ∈ List.replicate count '0', inNumber c = true :=
  fun _ member => List.eq_of_mem_replicate member ▸ rfl

theorem inNumber_positional {digits : List Char} (inside : ∀ c ∈ digits, inNumber c = true)
    (whole : Int) : ∀ c ∈ Decimal.positional digits whole, inNumber c = true := by
  have zero : inNumber '0' = true := rfl
  have point : inNumber '.' = true := rfl
  rw [Decimal.positional]
  split
  · simp only [List.cons_append, List.forall_mem_cons, List.forall_mem_append]
    exact ⟨zero, point, inNumber_replicate _, inside⟩
  split
  · simp only [List.forall_mem_cons, List.forall_mem_append]
    exact ⟨⟨inside, inNumber_replicate _⟩, point, zero, nofun⟩
  · simp only [List.forall_mem_cons, List.forall_mem_append]
    exact ⟨fun c member => inside c (List.mem_of_mem_take member), point,
      fun c member => inside c (List.mem_of_mem_drop member)⟩

theorem inNumber_scientific {digits : List Char} (inside : ∀ c ∈ digits, inNumber c = true)
    (layout : Decimal.Layout) (power : Int) :
    ∀ c ∈ Decimal.scientific layout digits power, inNumber c = true := by
  have point : inNumber '.' = true := rfl
  have mark : inNumber 'e' = true := rfl
  have sign : inNumber (if power < 0 then '-' else '+') = true := by
    split <;> rfl
  simp only [Decimal.scientific, List.leftpad, List.forall_mem_cons, List.forall_mem_append]
  refine ⟨?_, mark, sign, inNumber_replicate _, fun _ => inNumber_of_mem_toDigits⟩
  split
  next first second rest =>
    simp only [List.forall_mem_cons] at inside ⊢
    exact ⟨inside.1, point, inside.2⟩
  next => exact inside

theorem inNumber_write (layout : Decimal.Layout) (decimal : Decimal) :
    ∀ c ∈ Decimal.write layout decimal, inNumber c = true := by
  simp only [Decimal.write]
  split
  next => exact inNumber_positional (fun _ => inNumber_of_mem_toDigits) _
  next => exact inNumber_scientific (fun _ => inNumber_of_mem_toDigits) _ _

theorem inNumber_signedText {magnitude : List Char} (inside : ∀ c ∈ magnitude, inNumber c = true)
    (sign : Float.Model.UnpackedFloat.Sign) :
    ∀ c ∈ (Binary64.text.signedText sign magnitude).toList, inNumber c = true := by
  rw [Binary64.text.signedText, String.toList_ofList]
  split
  next => exact List.forall_mem_cons.mpr ⟨rfl, inside⟩
  next => exact inside

/-- **A number is written in characters of numbers**, so its text is a word. -/
theorem inNumber_numberText (value : Number) :
    ∀ c ∈ (numberText value).toList, inNumber c = true := by
  cases value with
  | integer value =>
      intro c member
      have numeric := List.all_eq_true.mp (integerText_numeric value) c member
      rcases Bool.or_eq_true_iff.mp numeric with digit | sign
      · rw [inNumber, digit, Bool.true_or]
      · rw [of_decide_eq_true sign]
        rfl
  | real value =>
      have infinity : numberLayout.infinity.toList.all inNumber = true := rfl
      have notANumber : numberLayout.notANumber.toList.all inNumber = true := rfl
      have zero : ['0', '.', '0'].all inNumber = true := rfl
      rw [List.all_eq_true] at infinity notANumber zero
      rw [numberText]
      fun_cases Binary64.text numberLayout value
      case case1 | case2 => exact notANumber
      case case3 => exact inNumber_signedText infinity _
      case case4 => exact inNumber_signedText zero _
      case case5 => exact inNumber_signedText (inNumber_write _ _) _

/-! ## Numbers with a point or an exponent -/

/-- What belongs to the front of a list ends before the first item that does not belong to it. -/
theorem length_takeWhile_le {α : Type} {belongs : α → Bool} {mark : α} (ends : belongs mark = false)
    (before after : List α) :
    ((before ++ mark :: after).takeWhile belongs).length ≤ before.length := by
  rw [List.takeWhile_append, List.takeWhile_cons_of_neg (by rw [ends]; exact Bool.false_ne_true),
    List.append_nil]
  split
  next => exact Nat.le_refl _
  next => exact (List.takeWhile_sublist _).length_le

theorem length_wholePart_le (text : List Char) :
    (wholePart text).length ≤ (text.takeWhile Char.isDigit).length := by
  simp only [wholePart]
  split
  next zero =>
    obtain ⟨_, later⟩ := List.head?_eq_some_iff.mp zero
    rw [later]
    exact Nat.succ_le_succ (Nat.zero_le _)
  next => exact Nat.le_refl _

/-- Digits that end before they are too many are no integer with too many digits. -/
theorem overlong_notMem_magnitudeTokens {before : List Char} {mark : Char}
    (short : before.length ≤ integerDigitLimit) (ends : mark.isDigit = false) (negative : Bool)
    (after : List Char) : Token.overlong ∉ magnitudeTokens negative (before ++ mark :: after) := by
  have whole : ¬ integerDigitLimit < (wholePart (before ++ mark :: after)).length :=
    Nat.not_lt.mpr (Nat.le_trans (length_wholePart_le _)
      (Nat.le_trans (length_takeWhile_le ends before after) short))
  simp only [magnitudeTokens, if_neg whole]
  repeat' split
  all_goals simp

/-- A word with a character that is neither a digit nor a sign, behind no more characters than an
integer may have digits. -/
def Marked (word : List Char) : Prop :=
  ∃ before mark after, word = before ++ mark :: after ∧ before.length ≤ integerDigitLimit ∧
    mark.isDigit = false ∧ mark ≠ '-'

theorem Marked.ne_nil {word : List Char} (marked : Marked word) : word ≠ [] := by
  obtain ⟨before, mark, after, rfl, _⟩ := marked
  exact List.append_ne_nil_of_right_ne_nil _ (List.cons_ne_nil _ _)

/-- A marked word is no integer with too many digits, with a sign or without. -/
theorem Marked.overlong_notMem {magnitude : List Char} (marked : Marked magnitude)
    (sign : Float.Model.UnpackedFloat.Sign) :
    Token.overlong ∉ wordTokens (Binary64.text.signedText sign magnitude).toList := by
  obtain ⟨before, mark, after, rfl, short, ends, unsigned⟩ := marked
  have number : Token.overlong ∉ numberTokens
      (Binary64.text.signedText sign (before ++ mark :: after)).toList := by
    rw [Binary64.text.signedText, String.toList_ofList]
    split
    next => exact overlong_notMem_magnitudeTokens short ends true after
    next =>
      rw [numberTokens.eq_def]
      split
      next magnitude same =>
        cases before with
        | nil =>
            cases same
            exact absurd rfl unsigned
        | cons first before =>
            cases same
            exact overlong_notMem_magnitudeTokens (Nat.le_of_succ_le short) ends true after
      next => exact overlong_notMem_magnitudeTokens short ends false after
  rw [wordTokens]
  split
  case h_7 => exact number
  all_goals simp

theorem marked_positional {digits : List Char} {whole : Int} (few : whole ≤ integerDigitLimit) :
    Marked (Decimal.positional digits whole) := by
  rw [Decimal.positional]
  split
  · exact ⟨['0'], '.', _, rfl, by decide, rfl, by decide⟩
  split
  next notBelow within =>
    refine ⟨digits ++ List.replicate (whole.toNat - digits.length) '0', '.', ['0'], rfl, ?_, rfl,
      by decide⟩
    rw [List.length_append, List.length_replicate]
    omega
  next notBelow beyond =>
    refine ⟨digits.take whole.toNat, '.', _, rfl, ?_, rfl, by decide⟩
    rw [List.length_take]
    omega

theorem marked_scientific (layout : Decimal.Layout) (digits : List Char) (power : Int) :
    Marked (Decimal.scientific layout digits power) := by
  simp only [Decimal.scientific]
  split
  next first second rest =>
    exact ⟨[first], '.', _, rfl, Nat.succ_le_of_lt (by decide), rfl, by decide⟩
  next short =>
    refine ⟨digits, 'e', _, rfl, ?_, rfl, by decide⟩
    match digits, short with
    | [], _ => exact Nat.zero_le _
    | [_], _ => exact Nat.succ_le_of_lt (by decide)
    | first :: second :: rest, short => exact absurd rfl (short first second rest)

theorem marked_write (decimal : Decimal) : Marked (Decimal.write numberLayout decimal) := by
  simp only [Decimal.write]
  split
  next within =>
    refine marked_positional (Int.le_trans (Int.add_one_le_of_lt within.2) ?_)
    decide
  next => exact marked_scientific _ _ _

/-- **No real number is written like an integer with too many digits.** -/
theorem overlong_notMem_real (value : Binary64) :
    Token.overlong ∉ wordTokens (numberText (.real value)).toList := by
  rw [numberText]
  fun_cases Binary64.text numberLayout value
  case case1 | case2 => simp [numberLayout, wordTokens]
  case case3 => exact Marked.overlong_notMem ⟨[], 'I', _, rfl, Nat.zero_le _, rfl, by decide⟩ _
  case case4 => exact Marked.overlong_notMem ⟨['0'], '.', _, rfl, by decide, rfl, by decide⟩ _
  case case5 => exact (marked_write _).overlong_notMem _

/-! ## Numbers as words -/

theorem signedText_ne_nil {magnitude : List Char} (visible : magnitude ≠ [])
    (sign : Float.Model.UnpackedFloat.Sign) :
    (Binary64.text.signedText sign magnitude).toList ≠ [] := by
  rw [Binary64.text.signedText, String.toList_ofList]
  split
  next => exact List.cons_ne_nil _ _
  next => exact visible

theorem numberText_ne_nil (value : Number) : (numberText value).toList ≠ [] := by
  cases value with
  | integer value =>
      rw [numberText, integerText, String.toList_ofList]
      split
      next => exact List.cons_ne_nil _ _
      next => exact Nat.toDigits_ne_nil
  | real value =>
      rw [numberText]
      fun_cases Binary64.text numberLayout value
      case case1 | case2 => decide
      case case3 => exact signedText_ne_nil (by decide) _
      case case4 => exact signedText_ne_nil (by decide) _
      case case5 => exact signedText_ne_nil (marked_write _).ne_nil _

/-- **The text of a number is a word.** -/
theorem isWord_numberText (value : Number) : isWord (numberText value).toList = true :=
  isWord_iff.mpr ⟨numberText_ne_nil value, fun c member =>
    endsWord_of_inNumber (inNumber_numberText value c member)⟩

end InfixFormula.Json
