import InfixFormula.Json.Reader
import InfixFormula.Proofs.Json.Numbers
import InfixFormula.Proofs.Result

/-!
# Reading what is written

A value that is written over several lines is read back as it was (`read_indented`). This needs that
the value can be read at all (`Legible`): an integer may have too many digits, and the names of an
object have to be different. Of a real number it is taken for granted that its text, when it stands
alone, is read as the number; that it is then read as the number inside a larger value too, is part
of the theorem.

The way goes over the tokens that spell a value (`spelled`): these are the tokens of what is
written, at any depth and whatever follows (`spells_indented`), and reading them completes a legible
value wherever one is expected (`Legible.completes`).
-/

set_option autoImplicit false

namespace InfixFormula.Json

/-- A value that can be read back: integers have no more digits than are read, real numbers are
read back one by one, and the names of an object are different. -/
inductive Legible : Json → Prop
  | null : Legible .null
  | bool (value : Bool) : Legible (.bool value)
  | text (value : Utf16) : Legible (.text value)
  | integer {value : Int} : (Nat.toDigits 10 value.natAbs).length ≤ integerDigitLimit →
      Legible (.number (.integer value))
  | real {value : Binary64} : read (numberText (.real value)) = .ok (.number (.real value)) →
      Legible (.number (.real value))
  | array {items : List Json} : (∀ item ∈ items, Legible item) → Legible (.array items)
  | object {fields : List (Utf16 × Json)} : (fields.map Prod.fst).Nodup →
      (∀ field ∈ fields, Legible field.2) → Legible (.object fields)

/-! ## The tokens that spell a value -/

mutual

/-- The tokens that spell a value. -/
def spelled : Json → List Token
  | number value => wordTokens (numberText value).toList
  | text value => [.string value]
  | array items => .openArray :: List.intercalate [.comma] (spelledItems items) ++ [.closeArray]
  | object fields =>
      .openObject :: List.intercalate [.comma] (spelledFields fields) ++ [.closeObject]
  | value => [.scalar value]

/-- The tokens that spell the items of an array. -/
def spelledItems : List Json → List (List Token)
  | [] => []
  | item :: items => item.spelled :: spelledItems items

/-- The tokens that spell the fields of an object. -/
def spelledFields : List (Utf16 × Json) → List (List Token)
  | [] => []
  | (name, value) :: fields => (.string name :: .colon :: value.spelled) :: spelledFields fields

end

theorem spelledItems_eq_map (items : List Json) : spelledItems items = items.map spelled := by
  induction items with
  | nil => rfl
  | cons item items ih => rw [spelledItems, ih, List.map_cons]

/-- The tokens that spell a field. -/
def spelledField (field : Utf16 × Json) : List Token :=
  .string field.1 :: .colon :: field.2.spelled

theorem spelledFields_eq_map (fields : List (Utf16 × Json)) :
    spelledFields fields = fields.map spelledField := by
  induction fields with
  | nil => rfl
  | cons field fields ih => rw [spelledFields, ih, List.map_cons, spelledField]

/-! ## What is written is spelled -/

/-- A text has these tokens, if what follows ends a word. -/
def Spells (text : String) (found : List Token) : Prop :=
  ∀ rest : List Char, (∀ c ∈ rest.head?, endsWord c = true) →
    tokens (text.toList ++ rest) = found ++ tokens rest

theorem spells_string (text : Utf16) : Spells (asciiString text) [.string text] :=
  fun rest _ => tokens_asciiString text rest

theorem spells_word {text : String} (whole : isWord text.toList = true) :
    Spells text (wordTokens text.toList) :=
  fun _ ends => tokens_word whole ends

/-- A field is its name, a colon and its value. -/
theorem Spells.field {text : String} {name : Utf16} {value : Json}
    (spells : Spells text value.spelled) :
    Spells (asciiString name ++ ": " ++ text) (spelledField (name, value)) := by
  intro rest ends
  have colon : (": " : String).toList = [':', ' '] := rfl
  rw [String.toList_append, String.toList_append, List.append_assoc, List.append_assoc,
    tokens_asciiString, colon, List.cons_append, List.cons_append, List.nil_append,
    tokens_punctuation rfl, tokens_space rfl, spells rest ends]
  rfl

theorem tokens_lineBreak (depth : Nat) (rest : List Char) :
    tokens ((lineBreak depth).toList ++ rest) = tokens rest := by
  have spaces (count : Nat) : tokens (List.replicate count ' ' ++ rest) = tokens rest := by
    induction count with
    | zero => rfl
    | succ count ih => rw [List.replicate_succ, List.cons_append, tokens_space rfl, ih]
  rw [lineBreak, String.toList_ofList, List.cons_append, tokens_space rfl, spaces]

theorem endsWord_lineBreak (depth : Nat) (rest : List Char) :
    ∀ c ∈ ((lineBreak depth).toList ++ rest).head?, endsWord c = true := by
  rw [lineBreak, String.toList_ofList]
  rintro _ ⟨⟩
  rfl

section Block

variable {α : Type} {written : α → String} {spelling : α → List Token} {parts : List α}
  (spells : ∀ part ∈ parts, Spells (written part) (spelling part)) (depth : Nat)
include spells

/-- Parts on lines of their own have commas between their tokens. -/
theorem spells_lines (nonempty : parts ≠ []) :
    Spells (String.intercalate ("," ++ lineBreak depth) (parts.map written))
      (List.intercalate [.comma] (parts.map spelling)) := by
  induction parts with
  | nil => exact absurd rfl nonempty
  | cons part parts ih =>
      obtain ⟨first, later⟩ := List.forall_mem_cons.mp spells
      cases parts with
      | nil => simpa using first
      | cons next parts =>
          intro rest ends
          have lines := ih later (List.cons_ne_nil _ _) rest ends
          rw [List.map_cons, List.map_cons, String.intercalate_cons_cons, List.map_cons,
            List.map_cons, List.intercalate_cons_cons, ← List.map_cons, ← List.map_cons]
          have comma : ("," : String).toList = [','] := rfl
          have commaEnds (rest : List Char) : ∀ c ∈ (',' :: rest).head?, endsWord c = true := by
            rintro _ ⟨⟩
            rfl
          simp only [String.toList_append, List.append_assoc, comma, List.cons_append,
            List.nil_append]
          rw [first _ (commaEnds _), tokens_punctuation rfl, tokens_lineBreak, lines]

/-- **Parts between brackets, each on a line of its own.** -/
theorem spells_block {opening closing : String} {openingMark closingMark : Char}
    {openingToken closingToken : Token} (opens : opening.toList = [openingMark])
    (closes : closing.toList = [closingMark])
    (openingIs : Scan.punctuation? openingMark = some openingToken)
    (closingIs : Scan.punctuation? closingMark = some closingToken) :
    Spells (block opening closing depth (parts.map written))
      (openingToken :: List.intercalate [.comma] (parts.map spelling) ++ [closingToken]) := by
  intro rest ends
  rw [block]
  by_cases empty : parts = []
  · simp [empty, opens, closes, tokens_punctuation openingIs, tokens_punctuation closingIs]
  · have lines := spells_lines spells (depth + 1) empty
    have first : (parts.map written).isEmpty = false := by simpa using empty
    simp only [first, Bool.false_eq_true, if_false, String.toList_append, opens, closes,
      List.append_assoc, List.cons_append, List.nil_append]
    rw [tokens_punctuation openingIs, tokens_lineBreak, lines _ (endsWord_lineBreak depth _),
      tokens_lineBreak, tokens_punctuation closingIs]

end Block

/-- The tokens of a word are values and faults. -/
theorem mem_wordTokens {word : List Char} : ∀ token ∈ wordTokens word,
    (∃ value, token = .scalar value) ∨ token = .overlong ∨ token = .invalid := by
  rw [wordTokens]
  split
  case h_7 =>
    rw [numberTokens.eq_def]
    split
    all_goals
      simp only [magnitudeTokens]
      repeat' split
      all_goals simp
  all_goals simp

theorem wordTokens_ne_nil (word : List Char) : wordTokens word ≠ [] := by
  rw [wordTokens]
  split
  case h_7 =>
    rw [numberTokens.eq_def]
    split
    all_goals
      simp only [magnitudeTokens]
      repeat' split
      all_goals exact List.cons_ne_nil _ _
  all_goals exact List.cons_ne_nil _ _

/-- A number that is read alone is scanned as the value that is read. -/
theorem wordTokens_of_read {value : Number} {found : Json}
    (reads : read (numberText value) = .ok found) :
    wordTokens (numberText value).toList = [.scalar found] := by
  have scanned := spells_word (isWord_numberText value) [] nofun
  rw [List.append_nil] at scanned
  rw [read, scanned] at reads
  have kinds := @mem_wordTokens (numberText value).toList
  generalize wordTokens (numberText value).toList = word at reads kinds ⊢
  rcases word with _ | ⟨first, later⟩
  · cases reads
  · rcases kinds first List.mem_cons_self with ⟨other, rfl⟩ | rfl | rfl
    · cases later with
      | nil =>
          cases reads
          rfl
      | cons next later => cases reads
    · cases reads
    · cases reads

/-- **A value that is written is spelled**, at any depth. -/
theorem spells_indented (value : Json) : ∀ depth, Spells (value.indented depth) value.spelled := by
  induction value with
  | null => exact fun _ => @spells_word "null" rfl
  | bool value =>
      intro _
      cases value with
      | false => exact @spells_word "false" rfl
      | true => exact @spells_word "true" rfl
  | number value => exact fun _ => spells_word (isWord_numberText value)
  | text value => exact fun _ => spells_string value
  | array items ih =>
      intro depth
      rw [indented, indentedItems_eq_map, spelled, spelledItems_eq_map]
      exact spells_block (fun item member => ih item member (depth + 1)) depth rfl rfl rfl rfl
  | object fields ih =>
      intro depth
      rw [indented, indentedFields_eq_map, spelled, spelledFields_eq_map]
      exact spells_block (fun field member => (ih field member (depth + 1)).field) depth
        rfl rfl rfl rfl

/-! ## What is spelled is read -/

/-- Tokens that complete a value, wherever one is expected. -/
def Completes (found : List Token) (value : Json) : Prop :=
  ∀ outer rest, (found ++ rest).foldlM Reading.step (.expectValue outer) =
    rest.foldlM Reading.step (Reading.complete value outer)

theorem putField_of_not_mem {name : Utf16} (value : Json) {fields : List (Utf16 × Json)}
    (new : name ∉ fields.map Prod.fst) :
    putField name value fields = fields ++ [(name, value)] := by
  induction fields with
  | nil => rfl
  | cons field fields ih =>
      rw [List.map_cons, List.mem_cons, not_or] at new
      rw [putField, if_neg (Ne.symm new.1), ih new.2, List.cons_append]

/-- What stands between separators starts with its first part. -/
theorem exists_intercalate_cons (separator first : List Token) (later : List (List Token)) :
    ∃ more, List.intercalate separator (first :: later) = first ++ more := by
  cases later with
  | nil => exact ⟨[], by rw [List.intercalate_singleton, List.append_nil]⟩
  | cons next later => exact ⟨_, by rw [List.intercalate_cons_cons, List.append_assoc]⟩

/-- Items with commas between them complete an array. -/
theorem items_complete {items : List Json} (completes : ∀ item ∈ items, Completes item.spelled item)
    (nonempty : items ≠ []) (outer : List Frame) (rest : List Token) (before : List Json) :
    (List.intercalate [.comma] (items.map spelled) ++ .closeArray :: rest).foldlM Reading.step
        (.expectValue (.item before :: outer)) =
      rest.foldlM Reading.step (Reading.complete (.array (before.reverse ++ items)) outer) := by
  induction items generalizing before with
  | nil => exact absurd rfl nonempty
  | cons item items ih =>
      obtain ⟨first, later⟩ := List.forall_mem_cons.mp completes
      cases items with
      | nil =>
          rw [List.map_cons, List.map_nil, List.intercalate_singleton, first]
          show rest.foldlM Reading.step
            (Reading.complete (.array (item :: before).reverse) outer) = _
          rw [List.reverse_cons]
      | cons next items =>
          have remaining := ih later (List.cons_ne_nil _ _) (item :: before)
          rw [List.reverse_cons, List.append_assoc] at remaining
          rw [List.map_cons, List.map_cons, List.intercalate_cons_cons, List.append_assoc,
            List.append_assoc, first, ← List.map_cons]
          exact remaining

/-- Fields with commas between them complete an object, if their names are different. -/
theorem fields_complete {fields : List (Utf16 × Json)}
    (completes : ∀ field ∈ fields, Completes field.2.spelled field.2) (nonempty : fields ≠ [])
    (outer : List Frame) (rest : List Token) (before : List (Utf16 × Json))
    (distinct : ((before ++ fields).map Prod.fst).Nodup) :
    (List.intercalate [.comma] (fields.map spelledField) ++ .closeObject :: rest).foldlM
        Reading.step (.nextName before outer) =
      rest.foldlM Reading.step (Reading.complete (.object (before ++ fields)) outer) := by
  induction fields generalizing before with
  | nil => exact absurd rfl nonempty
  | cons field fields ih =>
      obtain ⟨first, later⟩ := List.forall_mem_cons.mp completes
      have new : field.1 ∉ before.map Prod.fst := by
        rw [List.map_append, List.map_cons] at distinct
        intro member
        exact (List.nodup_append.mp distinct).2.2 _ member _ List.mem_cons_self rfl
      have put := putField_of_not_mem field.2 new
      have start (more : List Token) : (spelledField field ++ more).foldlM Reading.step
          (.nextName before outer) = more.foldlM Reading.step
            (.afterField (before ++ [(field.1, field.2)]) outer) := by
        show (field.2.spelled ++ more).foldlM Reading.step
          (.expectValue (.field before field.1 :: outer)) = _
        rw [first, Reading.complete, put]
      cases fields with
      | nil =>
          rw [List.map_cons, List.map_nil, List.intercalate_singleton, start]
          rfl
      | cons next fields =>
          have remaining := ih later (List.cons_ne_nil _ _) (before ++ [(field.1, field.2)])
            (by simpa using distinct)
          rw [List.append_assoc] at remaining
          rw [List.map_cons, List.map_cons, List.intercalate_cons_cons, List.append_assoc,
            List.append_assoc, start, ← List.map_cons]
          exact remaining

/-- No value starts with a closing bracket. -/
theorem spelled_starts (value : Json) : ∃ first later, value.spelled = first :: later ∧
    ∀ outer, Reading.step (.firstItem outer) first =
      Reading.step (.expectValue (.item [] :: outer)) first := by
  cases value with
  | number value =>
      obtain ⟨first, later, same⟩ :=
        List.exists_cons_of_ne_nil (wordTokens_ne_nil (numberText value).toList)
      have kind := @mem_wordTokens (numberText value).toList first
      rw [same] at kind
      refine ⟨first, later, same, fun outer => ?_⟩
      rcases kind List.mem_cons_self with ⟨_, rfl⟩ | rfl | rfl <;> rfl
  | _ => exact ⟨_, _, rfl, fun _ => rfl⟩

/-- The first item of an array is read like the others. -/
theorem firstItem_eq {items : List Json} (nonempty : items ≠ []) (outer : List Frame)
    (rest : List Token) :
    (List.intercalate [.comma] (items.map spelled) ++ rest).foldlM Reading.step (.firstItem outer) =
      (List.intercalate [.comma] (items.map spelled) ++ rest).foldlM Reading.step
        (.expectValue (.item [] :: outer)) := by
  obtain ⟨item, items, rfl⟩ := List.exists_cons_of_ne_nil nonempty
  obtain ⟨more, starts⟩ := exists_intercalate_cons [.comma] item.spelled (items.map spelled)
  obtain ⟨first, later, same, like⟩ := spelled_starts item
  rw [List.map_cons, starts, same, List.cons_append, List.cons_append, List.foldlM_cons,
    List.foldlM_cons, like]

/-- The first field of an object is read like the others. -/
theorem firstName_eq {fields : List (Utf16 × Json)} (nonempty : fields ≠ []) (outer : List Frame)
    (rest : List Token) :
    (List.intercalate [.comma] (fields.map spelledField) ++ rest).foldlM Reading.step
        (.firstName outer) =
      (List.intercalate [.comma] (fields.map spelledField) ++ rest).foldlM Reading.step
        (.nextName [] outer) := by
  obtain ⟨field, fields, rfl⟩ := List.exists_cons_of_ne_nil nonempty
  obtain ⟨more, starts⟩ := exists_intercalate_cons [.comma] (spelledField field)
    (fields.map spelledField)
  rw [List.map_cons, starts]
  rfl

/-- **What spells a value completes it.** -/
theorem Legible.completes {value : Json} (legible : Legible value) :
    Completes value.spelled value := by
  induction legible with
  | null | bool | text => exact fun _ _ => rfl
  | integer readable =>
      rw [spelled, numberText, wordTokens_integerText readable]
      exact fun _ _ => rfl
  | real reads =>
      rw [spelled, wordTokens_of_read reads]
      exact fun _ _ => rfl
  | @array items _ ih =>
      intro outer rest
      rw [spelled, spelledItems_eq_map, List.append_assoc]
      show (List.intercalate [.comma] (items.map spelled) ++ .closeArray :: rest).foldlM
        Reading.step (.firstItem outer) = _
      by_cases empty : items = []
      · rw [empty]
        rfl
      · rw [firstItem_eq empty]
        exact items_complete ih empty outer rest []
  | @object fields distinct _ ih =>
      intro outer rest
      rw [spelled, spelledFields_eq_map, List.append_assoc]
      show (List.intercalate [.comma] (fields.map spelledField) ++ .closeObject :: rest).foldlM
        Reading.step (.firstName outer) = _
      by_cases empty : fields = []
      · rw [empty]
        rfl
      · rw [firstName_eq empty]
        exact fields_complete ih empty outer rest [] distinct

/-- **A value that is written is read back.** -/
theorem read_indented {value : Json} (legible : Legible value) :
    read (value.indented 0) = .ok value := by
  have scanned := spells_indented value 0 [] nofun
  have completed := legible.completes [] []
  rw [List.append_nil] at scanned completed
  rw [read, scanned]
  show (List.foldlM Reading.step _ (value.spelled ++ []) >>= _) = _
  rw [List.append_nil, completed]
  rfl

end InfixFormula.Json
