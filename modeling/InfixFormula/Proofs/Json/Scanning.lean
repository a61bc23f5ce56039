import InfixFormula.Json.Writer
import InfixFormula.Json.Token
import InfixFormula.Proofs.Text.Hexadecimal

/-!
# Scanning what is written

The tokens of a text are those of its first part followed by those of the rest, wherever the scan
has nothing unfinished in between (`tokens_append`). So the tokens of a written value can be found
part by part: a blank has none, a punctuation character has its own, a string in ASCII has one token
with the units that were written (`tokens_asciiString`), and a word has its tokens if what follows
ends it (`tokens_word`).

Every unit of a string is scanned back, whichever way it was escaped (`scan_asciiUnit`).
-/

set_option autoImplicit false

namespace InfixFormula.Json

/-! ## Text in parts -/

namespace Scan

theorem step_nothing (tokens : List Token) (c : Char) :
    step ⟨tokens, .nothing⟩ c = between ⟨tokens, .nothing⟩ [] c := rfl

theorem step_word (tokens : List Token) (read : List Char) (c : Char) :
    step ⟨tokens, .word read⟩ c = between ⟨tokens, .word read⟩ read c := rfl

/-- A scan after some earlier tokens. -/
def after (earlier : List Token) (scan : Scan) : Scan :=
  ⟨scan.tokens ++ earlier.reverse, scan.unfinished⟩

variable (earlier : List Token)

theorem emit_after (scan : Scan) (tokens : List Token) :
    (scan.after earlier).emit tokens = (scan.emit tokens).after earlier := by
  simp only [emit, after, List.append_assoc]

theorem between_after (scan : Scan) (read : List Char) (c : Char) :
    (scan.after earlier).between read c = (scan.between read c).after earlier := by
  by_cases empty : read = []
  · simp only [between, if_pos empty, emit_after]
    repeat' split
    all_goals rfl
  · simp only [between, if_neg empty, emit_after]
    repeat' split
    all_goals rfl

/-- Earlier tokens have no influence on a step. -/
theorem step_after (scan : Scan) (c : Char) :
    (scan.after earlier).step c = (scan.step c).after earlier := by
  obtain ⟨tokens, unfinished⟩ := scan
  cases unfinished with
  | nothing => exact between_after earlier _ [] c
  | word read => exact between_after earlier _ read c
  | string read | escape read | unit read digits =>
      simp only [step, after, emit]
      repeat' split
      all_goals simp only [List.append_assoc]

theorem foldl_step_after (scan : Scan) (text : List Char) :
    text.foldl step (scan.after earlier) = (text.foldl step scan).after earlier := by
  induction text generalizing scan with
  | nil => rfl
  | cons c text ih => rw [List.foldl_cons, List.foldl_cons, step_after, ih]

theorem finish_after (scan : Scan) : (scan.after earlier).finish = earlier ++ scan.finish := by
  obtain ⟨tokens, unfinished⟩ := scan
  cases unfinished <;> simp [finish, after, emit]

end Scan

/-- **Where nothing is unfinished, the tokens of the rest follow.** -/
theorem tokens_append {text : List Char} {found : List Token}
    (scanned : text.foldl Scan.step ⟨[], .nothing⟩ = ⟨found.reverse, .nothing⟩)
    (rest : List Char) : tokens (text ++ rest) = found ++ tokens rest := by
  have start : (⟨found.reverse, .nothing⟩ : Scan) = Scan.after found ⟨[], .nothing⟩ := rfl
  rw [tokens, List.foldl_append, scanned, start, Scan.foldl_step_after, Scan.finish_after]
  rfl

/-! ## Blanks, punctuation and words -/

theorem tokens_space {c : Char} (blank : Scan.isSpace c = true) (rest : List Char) :
    tokens (c :: rest) = tokens rest := by
  have scanned : [c].foldl Scan.step ⟨[], .nothing⟩ = ⟨[].reverse, .nothing⟩ := by
    simp [Scan.step, Scan.between, blank, Scan.emit]
  exact tokens_append scanned rest

theorem tokens_punctuation {c : Char} {token : Token} (mark : Scan.punctuation? c = some token)
    (rest : List Char) : tokens (c :: rest) = token :: tokens rest := by
  have scanned : [c].foldl Scan.step ⟨[], .nothing⟩ = ⟨[token].reverse, .nothing⟩ := by
    revert mark
    fun_cases Scan.punctuation? c <;> rintro ⟨⟩ <;> rfl
  exact tokens_append scanned rest

/-- Whether a character ends a word. -/
def endsWord (c : Char) : Bool :=
  Scan.isSpace c || c = '\x22' || (Scan.punctuation? c).isSome

/-- Whether a text is a word: it has characters, and no one of them ends a word. -/
def isWord (text : List Char) : Bool :=
  !text.isEmpty && text.all fun c => !endsWord c

theorem isWord_iff {text : List Char} :
    isWord text = true ↔ text ≠ [] ∧ ∀ c ∈ text, endsWord c = false := by
  simp [isWord]

theorem between_inside {c : Char} (inside : endsWord c = false) (scan : Scan) (read : List Char) :
    scan.between read c = ⟨scan.tokens, .word (c :: read)⟩ := by
  simp only [endsWord, Bool.or_eq_false_iff, decide_eq_false_iff_not, Option.isSome_eq_false_iff,
    Option.isNone_iff_eq_none] at inside
  obtain ⟨⟨solid, unquoted⟩, plain⟩ := inside
  simp only [Scan.between, solid, if_neg unquoted, plain, Bool.false_eq_true, if_false]

/-- A character that ends a word finishes the word and stands for itself. -/
theorem between_ends {c : Char} (ends : endsWord c = true) (scan : Scan) {read : List Char}
    (nonempty : read ≠ []) :
    scan.between read c = (scan.emit (wordTokens read.reverse)).between [] c := by
  simp only [Scan.between, if_neg nonempty, if_true]
  split
  next => rfl
  next solid =>
    split
    next => rfl
    next unquoted =>
      simp only [endsWord, solid, unquoted, decide_false, Bool.or_self, Bool.false_or,
        Option.isSome_iff_exists] at ends
      obtain ⟨token, mark⟩ := ends
      rw [mark]

theorem scan_word {word : List Char} (inside : ∀ c ∈ word, endsWord c = false)
    (read : List Char) :
    word.foldl Scan.step ⟨[], .word read⟩ = ⟨[], .word (word.reverse ++ read)⟩ := by
  induction word generalizing read with
  | nil => rfl
  | cons c word ih =>
      obtain ⟨first, later⟩ := List.forall_mem_cons.mp inside
      rw [List.foldl_cons, Scan.step_word, between_inside first, ih later, List.reverse_cons,
        List.append_assoc]
      rfl

/-- **A word is scanned as a whole**, if what follows ends it. -/
theorem tokens_word {word : List Char} (whole : isWord word = true) {rest : List Char}
    (ends : ∀ c ∈ rest.head?, endsWord c = true) :
    tokens (word ++ rest) = wordTokens word ++ tokens rest := by
  obtain ⟨nonempty, inside⟩ := isWord_iff.mp whole
  obtain ⟨first, word, rfl⟩ := List.exists_cons_of_ne_nil nonempty
  obtain ⟨firstInside, later⟩ := List.forall_mem_cons.mp inside
  have read : (first :: word).reverse ≠ [] := by simp
  rw [tokens, List.foldl_append, List.foldl_cons, Scan.step_nothing, between_inside firstInside,
    scan_word later, ← List.reverse_cons]
  cases rest with
  | nil => simp [Scan.finish, Scan.emit, tokens]
  | cons c rest =>
      have step : Scan.step ⟨[], .word (first :: word).reverse⟩ c =
          (Scan.after (wordTokens (first :: word)) ⟨[], .nothing⟩).step c := by
        rw [Scan.step_word, between_ends (ends c rfl) _ read, List.reverse_reverse, Scan.emit,
          List.append_nil]
        rfl
      rw [List.foldl_cons, step, Scan.step_after, Scan.foldl_step_after, Scan.finish_after]
      rfl

/-! ## Strings -/

section String

variable (done : List Token) (read : List UInt16)

theorem scan_unitNumber (unit : UInt16) :
    (unitNumber unit).foldl Scan.step ⟨done, .string read⟩ = ⟨done, .string (unit :: read)⟩ := by
  have length : (Text.hexadecimal 4 unit.toNat).length = 4 :=
    Text.length_hexadecimal (by decide) unit.toNat_lt
  have value := Text.ofHexadecimal?_hexadecimal 4 unit.toNat
  rw [unitNumber]
  generalize Text.hexadecimal 4 unit.toNat = digits at length value ⊢
  match digits, length with
  | [a, b, c, d], _ => simp [Scan.step, value]

/-- A visible character of ASCII stands for itself, unless it is a mark or a backslash. -/
theorem scan_plain {unit : UInt16} (unquoted : unit ≠ 0x22) (straight : unit ≠ 0x5c)
    (visible : ¬ unit < 0x20) (ascii : unit < 0x7f) :
    Scan.step ⟨done, .string read⟩ (Char.ofNat unit.toNat) = ⟨done, .string (unit :: read)⟩ := by
  have small : unit.toNat < 0x7f := UInt16.lt_iff_toNat_lt.mp ascii
  have large : ¬ unit.toNat < 0x20 := fun below => visible (UInt16.lt_iff_toNat_lt.mpr below)
  have number : (Char.ofNat unit.toNat).toNat = unit.toNat := by
    rw [Char.ofNat, dif_pos (.inl (by omega))]
    rfl
  have other {c : Char} {code : UInt16} (coded : c.toNat = code.toNat) (differs : unit ≠ code) :
      Char.ofNat unit.toNat ≠ c := by
    rintro rfl
    exact differs (UInt16.toNat_inj.mp (number.symm.trans coded))
  have units : CodePoint.unitsOfChar (Char.ofNat unit.toNat) = [unit] := by
    rw [CodePoint.unitsOfChar, number, if_pos (by omega)]
    simp
  have noMark : Char.ofNat unit.toNat ≠ '\x22' := other rfl unquoted
  have noBackslash : Char.ofNat unit.toNat ≠ '\\' := other rfl straight
  simp only [Scan.step, if_neg noMark, if_neg noBackslash, number, if_neg large, units]
  rfl

/-- **A unit of a string is scanned back**, whichever way it is written. -/
theorem scan_asciiUnit (unit : UInt16) :
    (asciiUnit unit).foldl Scan.step ⟨done, .string read⟩ = ⟨done, .string (unit :: read)⟩ := by
  rw [asciiUnit]
  fun_cases escape? unit
  case case8 => exact scan_unitNumber done read unit
  case case9 unquoted straight _ _ _ _ _ visible =>
    rw [Option.getD_none]
    split
    next ascii => exact scan_plain done read unquoted straight visible ascii
    next => exact scan_unitNumber done read unit
  all_goals
    subst_vars
    rfl

theorem scan_asciiUnits (units : List UInt16) :
    (units.flatMap asciiUnit).foldl Scan.step ⟨done, .string read⟩ =
      ⟨done, .string (units.reverse ++ read)⟩ := by
  induction units generalizing read with
  | nil => rfl
  | cons unit units ih =>
      rw [List.flatMap_cons, List.foldl_append, scan_asciiUnit, ih, List.reverse_cons,
        List.append_assoc]
      rfl

/-- **A string is scanned as the text that it writes.** -/
theorem tokens_asciiString (text : Utf16) (rest : List Char) :
    tokens ((asciiString text).toList ++ rest) = .string text :: tokens rest := by
  have scanned : (asciiString text).toList.foldl Scan.step ⟨[], .nothing⟩ =
      ⟨[.string text].reverse, .nothing⟩ := by
    rw [asciiString, String.toList_ofList, List.cons_append, List.foldl_cons, List.foldl_append]
    show [_].foldl Scan.step (List.foldl Scan.step ⟨[], .string []⟩ _) = _
    rw [scan_asciiUnits, List.append_nil]
    show Scan.emit _ [.string ⟨text.units.reverse.reverse⟩] = _
    rw [List.reverse_reverse]
    rfl
  exact tokens_append scanned rest

end String

end InfixFormula.Json
