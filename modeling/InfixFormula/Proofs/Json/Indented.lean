import InfixFormula.Json.Writer
import InfixFormula.Proofs.Result
import Mathlib.Algebra.Group.Int.Defs
import Mathlib.Algebra.Group.Nat.Defs

/-!
# The written form as a whole

Which values cannot be written is said without the writer: those with an integer of too many digits
somewhere in them (`Overlong`). They are also the values that no message can show
(`exists_literal_iff`).

Every other value is written as a whole, and what is written is the text that one would set out at
once (`indented`), whatever the parts in which it is made (`written_chunks`).
-/

set_option autoImplicit false

namespace InfixFormula

/-! ## Integers -/

/-- An integer is written if it is smaller than the power of ten with one digit more. -/
theorem writeInteger_of_lt {value : Int} (small : value.natAbs < 10 ^ integerDigitLimit) :
    writeInteger value = .ok (integerText value) :=
  if_pos ((Nat.length_toDigits_le_iff (by decide) (by decide)).mpr small)

theorem writeInteger_of_le {value : Int} (large : 10 ^ integerDigitLimit ≤ value.natAbs) :
    writeInteger value = .error {} :=
  if_neg fun short =>
    Nat.not_lt.mpr large ((Nat.length_toDigits_le_iff (by decide) (by decide)).mp short)

namespace Json

/-! ## Values and their parts -/

/-- What holds of the values without parts, and of a container if it holds of its parts, holds of
every value. -/
@[induction_eliminator]
theorem induction {holds : Json → Prop} (null : holds null) (bool : ∀ value, holds (bool value))
    (number : ∀ value, holds (number value)) (text : ∀ value, holds (text value))
    (array : ∀ items, (∀ item ∈ items, holds item) → holds (array items))
    (object : ∀ fields, (∀ field ∈ fields, holds field.2) → holds (object fields)) (value : Json) :
    holds value :=
  @Json.rec holds (fun items => ∀ item ∈ items, holds item)
    (fun fields => ∀ field ∈ fields, holds field.2) (fun field => holds field.2)
    null bool number text array object
    nofun (fun _ _ first later => List.forall_mem_cons.mpr ⟨first, later⟩)
    nofun (fun _ _ first later => List.forall_mem_cons.mpr ⟨first, later⟩)
    (fun _ _ ofValue => ofValue) value

/-! ## Values that cannot be written -/

/-- A value that is, or has somewhere in it, an integer with too many digits. -/
inductive Overlong : Json → Prop
  | integer {value : Int} : 10 ^ integerDigitLimit ≤ value.natAbs →
      Overlong (.number (.integer value))
  | item {items : List Json} {item : Json} : item ∈ items → Overlong item → Overlong (.array items)
  | field {fields : List (Utf16 × Json)} {field : Utf16 × Json} : field ∈ fields →
      Overlong field.2 → Overlong (.object fields)

theorem not_overlong_integer_iff {value : Int} :
    ¬ Overlong (.number (.integer value)) ↔ value.natAbs < 10 ^ integerDigitLimit := by
  rw [← Nat.not_le]
  exact not_congr ⟨fun | .integer large => large, .integer⟩

theorem not_overlong_array_iff {items : List Json} :
    ¬ Overlong (.array items) ↔ ∀ item ∈ items, ¬ Overlong item :=
  ⟨fun short _ member overlong => short (.item member overlong),
    fun short => fun | .item member overlong => short _ member overlong⟩

theorem not_overlong_object_iff {fields : List (Utf16 × Json)} :
    ¬ Overlong (.object fields) ↔ ∀ field ∈ fields, ¬ Overlong field.2 :=
  ⟨fun short _ member overlong => short (.field member overlong),
    fun short => fun | .field member overlong => short _ member overlong⟩

/-! ## Values in messages -/

theorem itemLiterals_eq_mapM (items : List Json) : itemLiterals items = items.mapM literal := by
  induction items with
  | nil => rfl
  | cons item items ih => rw [itemLiterals, ih, List.mapM_cons]

theorem fieldLiterals_eq_mapM (fields : List (Utf16 × Json)) :
    fieldLiterals fields = fields.mapM fun field => field.2.literal >>= fun shown =>
      pure (Text.quotedCodePoints field.1.codePoints ++ ": " ++ shown) := by
  induction fields with
  | nil => rfl
  | cons field fields ih =>
      rw [fieldLiterals, ih, List.mapM_cons, bind_assoc]
      rfl

/-- **A message can show a value** exactly if no integer in it has too many digits. -/
theorem exists_literal_iff (value : Json) :
    (∃ shown, value.literal = .ok shown) ↔ ¬ Overlong value := by
  induction value with
  | null | text => exact ⟨nofun, fun _ => ⟨_, rfl⟩⟩
  | bool value => cases value <;> exact ⟨nofun, fun _ => ⟨_, rfl⟩⟩
  | number value =>
      cases value with
      | real value => exact ⟨nofun, fun _ => ⟨_, rfl⟩⟩
      | integer value =>
          rw [literal, numberLiteral, not_overlong_integer_iff]
          by_cases small : value.natAbs < 10 ^ integerDigitLimit
          · exact iff_of_true ⟨_, writeInteger_of_lt small⟩ small
          · rw [writeInteger_of_le (Nat.not_lt.mp small)]
            exact iff_of_false nofun small
  | array items ih =>
      rw [not_overlong_array_iff, ← forall₂_congr ih, ← exists_mapM_ok_iff, literal,
        itemLiterals_eq_mapM, exists_bind_pure_iff]
  | object fields ih =>
      simp only [not_overlong_object_iff, ← forall₂_congr ih, literal, fieldLiterals_eq_mapM,
        exists_bind_pure_iff, exists_mapM_ok_iff]

/-- A value that no message can show. -/
theorem literal_of_overlong {value : Json} (overlong : Overlong value) :
    value.literal = .error {} := by
  cases shown : value.literal with
  | ok text => exact absurd overlong ((exists_literal_iff value).mp ⟨text, shown⟩)
  | error => rfl

/-! ## Texts as a whole -/

/-- A number in JSON, whatever its size. -/
def numberText : Number → String
  | .integer value => integerText value
  | .real value => Binary64.text numberLayout value

/-- Parts between brackets, each on a line of its own one level deeper. -/
def block (opening closing : String) (depth : Nat) (parts : List String) : String :=
  if parts.isEmpty then opening ++ closing
  else opening ++ lineBreak (depth + 1) ++
    String.intercalate ("," ++ lineBreak (depth + 1)) parts ++ lineBreak depth ++ closing

mutual

/-- A value over several lines at a depth of nesting, in ASCII. -/
def indented (depth : Nat) : Json → String
  | null => "null"
  | bool value => truthText value
  | number value => numberText value
  | text value => asciiString value
  | array items => block "[" "]" depth (indentedItems (depth + 1) items)
  | object fields => block "\x7b" "\x7d" depth (indentedFields (depth + 1) fields)

/-- The items of an array at a depth of nesting. -/
def indentedItems (depth : Nat) : List Json → List String
  | [] => []
  | item :: items => item.indented depth :: indentedItems depth items

/-- The fields of an object at a depth of nesting. -/
def indentedFields (depth : Nat) : List (Utf16 × Json) → List String
  | [] => []
  | (name, value) :: fields =>
      (asciiString name ++ ": " ++ value.indented depth) :: indentedFields depth fields

end

/-- The text of an object starts with a brace. -/
theorem indented_object_ne_empty (depth : Nat) (fields : List (Utf16 × Json)) :
    (object fields).indented depth ≠ "" := by
  rw [indented, block]
  split <;> simp

/-- A field at a depth of nesting. -/
def indentedField (depth : Nat) (field : Utf16 × Json) : String :=
  asciiString field.1 ++ ": " ++ field.2.indented depth

theorem indentedItems_eq_map (depth : Nat) (items : List Json) :
    indentedItems depth items = items.map (indented depth) := by
  induction items with
  | nil => rfl
  | cons item items ih => rw [indentedItems, ih, List.map_cons]

theorem indentedFields_eq_map (depth : Nat) (fields : List (Utf16 × Json)) :
    indentedFields depth fields = fields.map (indentedField depth) := by
  induction fields with
  | nil => rfl
  | cons field fields ih => rw [indentedFields, ih, List.map_cons, indentedField]

theorem itemLines_eq_map (depth : Nat) (items : List Json) :
    itemLines depth items = items.map (chunks depth) := by
  induction items with
  | nil => rfl
  | cons item items ih => rw [itemLines, ih, List.map_cons]

theorem fieldLines_eq_map (depth : Nat) (fields : List (Utf16 × Json)) :
    fieldLines depth fields =
      fields.map fun field => fieldLine (.ok field.1) (field.2.chunks depth "") := by
  induction fields with
  | nil => rfl
  | cons field fields ih => rw [fieldLines, ih, List.map_cons]

/-! ## Writing part by part -/

theorem written_ok (part : String) (later : List Chunk) :
    written (.ok part :: later) = (part ++ (written later).1, (written later).2) := rfl

/-- Parts that can all be made are written, and then those behind them. -/
theorem written_append_of_ok {first : List Chunk} {text : String}
    (whole : written first = (text, .ok ())) (later : List Chunk) :
    written (first ++ later) = (text ++ (written later).1, (written later).2) := by
  induction first generalizing text with
  | nil =>
      cases whole
      rw [List.nil_append, String.empty_append]
  | cons chunk first ih =>
      cases chunk with
      | error fault => cases whole
      | ok part =>
          rw [written_ok, Prod.mk.injEq] at whole
          rw [List.cons_append, written_ok, ih (Prod.ext rfl whole.2), ← whole.1,
            String.append_assoc]

/-- Behind a part that cannot be made nothing is written. -/
theorem written_append_of_error {first : List Chunk} {text : String} {fault : OverlongInteger}
    (stopped : written first = (text, .error fault)) (later : List Chunk) :
    written (first ++ later) = (text, .error fault) := by
  induction first generalizing text with
  | nil => cases stopped
  | cons chunk first ih =>
      cases chunk with
      | error other => exact stopped
      | ok part =>
          rw [written_ok, Prod.mk.injEq] at stopped
          rw [List.cons_append, written_ok, ih (Prod.ext rfl stopped.2), ← stopped.1]

/-- A line that is written as a whole. -/
def Line.Writes (line : Line) (text : String) : Prop :=
  ∀ lead, written (line lead) = (lead ++ text, .ok ())

theorem writes_field {name : Utf16} {value : Line} {text : String} (writes : value.Writes text) :
    (fieldLine (.ok name) (value "")).Writes (asciiString name ++ ": " ++ text) := by
  intro lead
  simp only [fieldLine, written_ok, writes "", String.empty_append, String.append_assoc]

section Lines

variable {α : Type} {line : α → Line} {text : α → String} {parts : List α}
  (writes : ∀ part ∈ parts, (line part).Writes (text part)) (depth : Nat)
include writes

theorem written_lineChunks (nonempty : parts ≠ []) (lead : String) :
    written (lineChunks depth lead (parts.map line)) =
      (lead ++ String.intercalate ("," ++ lineBreak depth) (parts.map text), .ok ()) := by
  induction parts generalizing lead with
  | nil => exact absurd rfl nonempty
  | cons part parts ih =>
      obtain ⟨first, later⟩ := List.forall_mem_cons.mp writes
      rw [List.map_cons, lineChunks, written_append_of_ok (first lead)]
      cases parts with
      | nil => simp [lineChunks, written]
      | cons next parts =>
          rw [ih later (List.cons_ne_nil _ _), List.map_cons, List.map_cons, List.map_cons,
            String.intercalate_cons_cons]
          simp only [String.append_assoc]

/-- **An array is written as a whole** if its items are. -/
theorem written_arrayChunks :
    written (arrayChunks depth (parts.map line)) =
      (block "[" "]" depth (parts.map text), .ok ()) := by
  rw [arrayChunks, block, List.isEmpty_map, List.isEmpty_map]
  split
  next => rfl
  next nonempty =>
    have lines := written_lineChunks writes (depth + 1) (by simpa using nonempty)
      ("[" ++ lineBreak (depth + 1))
    rw [written_append_of_ok lines]
    simp only [written, String.append_empty, String.append_assoc]

/-- **An object is written as a whole** if its fields are. -/
theorem written_objectChunks :
    written (objectChunks depth (parts.map line)) =
      (block "\x7b" "\x7d" depth (parts.map text), .ok ()) := by
  rw [objectChunks, block, List.isEmpty_map, List.isEmpty_map]
  split
  next => rfl
  next nonempty =>
    have lines := written_lineChunks writes (depth + 1) (by simpa using nonempty) ""
    rw [List.cons_append, List.cons_append, written_ok, written_ok, written_append_of_ok lines]
    simp only [written, String.empty_append, String.append_empty, String.append_assoc]

end Lines

/-- **A value without an integer of too many digits is written as a whole.** -/
theorem writes_chunks {value : Json} (short : ¬ Overlong value) (depth : Nat) :
    Line.Writes (value.chunks depth) (value.indented depth) := by
  induction value generalizing depth with
  | null | bool | text =>
      intro lead
      rw [chunks, written_ok, written, indented, String.append_empty]
  | number value =>
      intro lead
      have text : writeNumber value = .ok (numberText value) := by
        cases value with
        | real value => rfl
        | integer value => exact writeInteger_of_lt (not_overlong_integer_iff.mp short)
      rw [chunks, text, indented]
      show (lead ++ numberText value ++ "", _) = _
      rw [String.append_empty]
  | array items ih =>
      intro lead
      have writes : ∀ item ∈ items,
          Line.Writes (item.chunks (depth + 1)) (item.indented (depth + 1)) :=
        fun item member => ih item member (not_overlong_array_iff.mp short item member) (depth + 1)
      rw [chunks, itemLines_eq_map, written_ok, written_arrayChunks writes, indented,
        indentedItems_eq_map]
  | object fields ih =>
      intro lead
      have writes : ∀ field ∈ fields,
          (fieldLine (.ok field.1) (field.2.chunks (depth + 1) "")).Writes
            (indentedField (depth + 1) field) :=
        fun field member => writes_field
          (ih field member (not_overlong_object_iff.mp short field member) (depth + 1))
      rw [chunks, fieldLines_eq_map, written_ok, written_objectChunks writes, indented,
        indentedFields_eq_map]

end Json

end InfixFormula
