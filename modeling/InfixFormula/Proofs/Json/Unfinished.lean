import InfixFormula.Proofs.Json.RoundTrip

/-!
# Texts that break off

Where a value has an integer with too many digits, writing stops in front of it and leaves the text
as far as it was written. Such a text of an object is no JSON (`read_of_broken`), since its brace is
written before anything can fail and is never closed.

To see this, the tokens of a text are weighed: one that opens a container counts as one, one that
closes it as minus one. A reader holds as many open containers as the tokens so far weigh
(`depth_step`), so a text that can be read weighs nothing. What is written as a whole weighs nothing
either, and a text that breaks off weighs what it has opened (`halts_chunks`).
-/

set_option autoImplicit false

namespace InfixFormula.Json

/-! ## Weights -/

/-- How many containers a token opens, less those that it closes. -/
def Token.weight : Token → Int
  | openArray | openObject => 1
  | closeArray | closeObject => -1
  | _ => 0

/-- How many containers are open behind some tokens. -/
def weight : List Token → Int
  | [] => 0
  | token :: tokens => token.weight + weight tokens

@[simp] theorem weight_nil : weight [] = 0 := rfl

@[simp] theorem weight_cons (token : Token) (tokens : List Token) :
    weight (token :: tokens) = token.weight + weight tokens := rfl

@[simp] theorem weight_append (first later : List Token) :
    weight (first ++ later) = weight first + weight later := by
  induction first with
  | nil => rw [List.nil_append, weight_nil, Int.zero_add]
  | cons token first ih => rw [List.cons_append, weight_cons, weight_cons, ih, Int.add_assoc]

/-- Tokens without brackets weigh nothing. -/
theorem weight_eq_zero {tokens : List Token} (light : ∀ token ∈ tokens, token.weight = 0) :
    weight tokens = 0 := by
  induction tokens with
  | nil => rfl
  | cons token tokens ih =>
      obtain ⟨first, later⟩ := List.forall_mem_cons.mp light
      rw [weight_cons, first, ih later, Int.add_zero]

/-! ## Reading -/

namespace Reading

/-- How many containers are open. -/
def depth : Reading → Int
  | expectValue outer => outer.length
  | firstItem outer | afterItem _ outer | firstName outer | nextName _ outer | colon _ _ outer
  | afterField _ outer => outer.length + 1
  | finished _ => 0

theorem depth_complete (value : Json) (outer : List Frame) :
    (complete value outer).depth = outer.length := by
  cases outer with
  | nil => rfl
  | cons frame outer => cases frame <;> rfl

theorem depth_startValue {outer : List Frame} {token : Token} {next : Reading}
    (started : startValue outer token = .ok next) : next.depth = outer.length + token.weight := by
  cases token <;> cases started
  case scalar | string => rw [depth_complete]; rfl
  all_goals rfl

/-- **A token changes the number of open containers by its weight.** -/
theorem depth_step {reading next : Reading} {token : Token}
    (stepped : step reading token = .ok next) : next.depth = reading.depth + token.weight := by
  revert stepped
  fun_cases step reading token
  case case1 | case3 => exact fun started => depth_startValue started
  all_goals rintro ⟨⟩
  case case2 | case5 | case6 | case11 =>
    rw [depth_complete, depth, Token.weight]
    omega
  all_goals simp [depth, Token.weight]

/-- The only obstacle besides tokens in the wrong place is an integer with too many digits. -/
theorem overlong_of_step {reading : Reading} {token : Token}
    (failed : step reading token = .error .overlongInteger) : token = .overlong := by
  have start {outer : List Frame} {token : Token}
      (failed : startValue outer token = .error .overlongInteger) : token = .overlong := by
    cases token <;> cases failed
    rfl
  revert failed
  fun_cases step reading token
  case case1 | case3 => exact start
  all_goals exact nofun

theorem depth_foldlM {tokens : List Token} {reading next : Reading}
    (stepped : tokens.foldlM step reading = .ok next) :
    next.depth = reading.depth + weight tokens := by
  induction tokens generalizing reading with
  | nil =>
      cases stepped
      exact (Int.add_zero _).symm
  | cons token tokens ih =>
      rw [List.foldlM_cons] at stepped
      obtain ⟨middle, first, stepped⟩ := bind_eq_ok_iff.mp stepped
      rw [ih stepped, depth_step first, weight_cons, Int.add_assoc]

theorem overlong_of_foldlM {tokens : List Token} {reading : Reading}
    (failed : tokens.foldlM step reading = .error .overlongInteger) : .overlong ∈ tokens := by
  induction tokens generalizing reading with
  | nil => cases failed
  | cons token tokens ih =>
      rw [List.foldlM_cons] at failed
      rcases fault_of_bind failed with first | ⟨middle, _, failed⟩
      · rw [overlong_of_step first]
        exact List.mem_cons_self
      · exact List.mem_cons_of_mem token (ih failed)

end Reading

/-- **A text that leaves containers open is no JSON**, if none of its integers has too many
digits. -/
theorem read_of_open {text : String} (isOpen : 1 ≤ weight (tokens text.toList))
    (short : .overlong ∉ tokens text.toList) : read text = .error .malformed := by
  rw [read]
  cases ended : (tokens text.toList).foldlM Reading.step (.expectValue []) with
  | error fault =>
      cases fault with
      | malformed => rfl
      | overlongInteger => exact absurd (Reading.overlong_of_foldlM ended) short
  | ok reading =>
      have depth := Reading.depth_foldlM ended
      cases reading with
      | finished value =>
          rw [Reading.depth, Reading.depth, List.length_nil] at depth
          omega
      | _ => rfl

/-! ## What is written as a whole -/

/-- Tokens that open and close the same number of containers, without an integer of too many
digits. -/
structure Settled (tokens : List Token) : Prop where
  weight : weight tokens = 0
  short : .overlong ∉ tokens

theorem Settled.append {first later : List Token} (settledFirst : Settled first)
    (settledLater : Settled later) : Settled (first ++ later) := by
  refine ⟨?_, ?_⟩
  · rw [weight_append, settledFirst.weight, settledLater.weight, Int.add_zero]
  · rw [List.mem_append, not_or]
    exact ⟨settledFirst.short, settledLater.short⟩

theorem settled_intercalate {parts : List (List Token)} (settled : ∀ part ∈ parts, Settled part) :
    Settled (List.intercalate [.comma] parts) := by
  induction parts with
  | nil => exact ⟨rfl, nofun⟩
  | cons part parts ih =>
      obtain ⟨first, later⟩ := List.forall_mem_cons.mp settled
      cases parts with
      | nil => rwa [List.intercalate_singleton]
      | cons next parts =>
          have comma : Settled [.comma] := ⟨rfl, by simp⟩
          rw [List.intercalate_cons_cons]
          exact (first.append comma).append (ih later)

/-- Settled tokens stay so between the tokens of a pair of brackets. -/
theorem Settled.between {inner : List Token} (settled : Settled inner) {opens closes : Token}
    (pair : opens.weight + closes.weight = 0) (visible : opens ≠ .overlong ∧ closes ≠ .overlong) :
    Settled (opens :: inner ++ [closes]) := by
  refine ⟨?_, ?_⟩
  · simp only [weight_append, weight_cons, weight_nil, settled.weight]
    omega
  · simp [settled.short, visible.1.symm, visible.2.symm]

theorem Settled.field {field : Utf16 × Json} (settled : Settled field.2.spelled) :
    Settled (spelledField field) := by
  refine ⟨?_, ?_⟩
  · simp [spelledField, Token.weight, settled.weight]
  · simp [spelledField, settled.short]

theorem settled_wordTokens {word : List Char} (short : Token.overlong ∉ wordTokens word) :
    Settled (wordTokens word) := by
  have light : ∀ token ∈ wordTokens word, token.weight = 0 := by
    intro token member
    rcases mem_wordTokens token member with ⟨_, rfl⟩ | rfl | rfl <;> rfl
  refine ⟨?_, short⟩
  exact weight_eq_zero light

/-- **A value without an integer of too many digits is spelled by settled tokens.** -/
theorem settled_spelled {value : Json} (short : ¬ Overlong value) : Settled value.spelled := by
  induction value with
  | null | bool | text => exact ⟨rfl, by simp [spelled]⟩
  | number value =>
      refine settled_wordTokens ?_
      cases value with
      | real value => exact overlong_notMem_real value
      | integer value =>
          have readable := (Nat.length_toDigits_le_iff (by decide) (by decide)).mpr
            (not_overlong_integer_iff.mp short)
          rw [numberText, wordTokens_integerText readable]
          simp
  | array items ih =>
      rw [spelled, spelledItems_eq_map]
      refine (settled_intercalate ?_).between rfl (by simp)
      rw [List.forall_mem_map]
      exact fun item member => ih item member (not_overlong_array_iff.mp short item member)
  | object fields ih =>
      rw [spelled, spelledFields_eq_map]
      refine (settled_intercalate ?_).between rfl (by simp)
      rw [List.forall_mem_map]
      exact fun field member =>
        (ih field member (not_overlong_object_iff.mp short field member)).field

/-! ## What is written before a fault -/

/-- A text that has opened no fewer containers than it has closed, without an integer of too many
digits. -/
structure Open (text : String) : Prop where
  weight : 0 ≤ weight (tokens text.toList)
  short : .overlong ∉ tokens text.toList

theorem open_empty : Open "" :=
  ⟨Int.le_refl 0, nofun⟩

/-- A text is as open as what stands behind tokens that open nothing less than they close. -/
theorem Open.of_tokens {text more : String} (found : List Token)
    (same : tokens text.toList = found ++ tokens more.toList) (opens : 0 ≤ Json.weight found)
    (short : .overlong ∉ found) (isOpen : Open more) : Open text := by
  refine ⟨?_, ?_⟩
  · rw [same, weight_append]
    exact Int.add_nonneg opens isOpen.weight
  · rw [same, List.mem_append, not_or]
    exact ⟨short, isOpen.short⟩

/-- What a line leaves when it breaks off behind a text in front of it: nothing at all, not even
that text, or something behind it. -/
def BreaksOff (lead text : String) : Prop :=
  text = "" ∨ ∃ more, text = lead ++ more ∧ Open more

/-- A line that breaks off. -/
def Line.Halts (line : Line) : Prop :=
  ∀ lead, ∃ text, written (line lead) = (text, .error {}) ∧ BreaksOff lead text

/-- A text that is scanned into settled tokens, if what follows ends a word. -/
def Rounded (text : String) : Prop :=
  ∃ found, Spells text found ∧ Settled found

theorem Rounded.append {text more : String} (rounded : Rounded text) (isOpen : Open more)
    (ends : ∀ c ∈ more.toList.head?, endsWord c = true) : Open (text ++ more) := by
  obtain ⟨found, spells, settled⟩ := rounded
  refine .of_tokens found ?_ (Int.le_of_eq settled.weight.symm) settled.short isOpen
  rw [String.toList_append, spells _ ends]

/-- A field halts where its value does. -/
theorem halts_field {name : Utf16} {value : Line} (halts : value.Halts) :
    (fieldLine (.ok name) (value "")).Halts := by
  intro lead
  obtain ⟨text, stopped, broken⟩ := halts ""
  have isOpen : Open text := by
    rcases broken with rfl | ⟨more, rfl, isOpen⟩
    · exact open_empty
    · rwa [String.empty_append]
  refine ⟨lead ++ (asciiString name ++ (": " ++ text)), ?_, .inr ⟨_, rfl, ?_⟩⟩
  · simp only [fieldLine, written_ok, stopped]
  · have colon : (": " : String).toList = [':', ' '] := rfl
    refine .of_tokens [.string name, .colon] ?_ (Int.le_refl 0) (by simp) isOpen
    rw [String.toList_append, String.toList_append, tokens_asciiString, colon, List.cons_append,
      List.cons_append, List.nil_append, tokens_punctuation rfl, tokens_space rfl]
    rfl

theorem halts_unnamed {name : Except OverlongInteger Utf16} (unnamed : name = .error {})
    (value : List Chunk) : (fieldLine name value).Halts := by
  intro lead
  rw [unnamed]
  exact ⟨"", rfl, .inl rfl⟩

section Lines

variable {α : Type} {line : α → Line} {text : α → String} {parts : List α}
  (kinds : ∀ part ∈ parts, (line part).Halts ∨
    (line part).Writes (text part) ∧ Rounded (text part))
  (halts : ∃ part ∈ parts, (line part).Halts) (depth : Nat)
include kinds halts

/-- **Lines break off** behind the last line that is written to its end. -/
theorem halts_lineChunks : Line.Halts fun lead => lineChunks depth lead (parts.map line) := by
  induction parts with
  | nil =>
      obtain ⟨_, none, _⟩ := halts
      cases none
  | cons part parts ih =>
      obtain ⟨kind, later⟩ := List.forall_mem_cons.mp kinds
      intro lead
      show ∃ found, written (line part lead ++
        lineChunks depth ("," ++ lineBreak depth) (parts.map line)) = _ ∧ _
      by_cases here : (line part).Halts
      · obtain ⟨found, stopped, broken⟩ := here lead
        exact ⟨found, written_append_of_error stopped _, broken⟩
      · obtain ⟨writes, rounded⟩ := kind.resolve_left here
        have haltsLater : ∃ part ∈ parts, (line part).Halts := by
          obtain ⟨other, member, otherHalts⟩ := halts
          rcases List.mem_cons.mp member with rfl | member
          · exact absurd otherHalts here
          · exact ⟨other, member, otherHalts⟩
        obtain ⟨found, stopped, broken⟩ := ih later haltsLater ("," ++ lineBreak depth)
        refine ⟨lead ++ (text part ++ found), ?_, .inr ⟨_, rfl, ?_⟩⟩
        · rw [written_append_of_ok (writes lead), stopped, String.append_assoc]
        · rcases broken with rfl | ⟨more, rfl, isOpen⟩
          · exact rounded.append open_empty nofun
          · have comma : ("," : String).toList = [','] := rfl
            refine rounded.append (.of_tokens [.comma] ?_ (Int.le_refl 0) (by simp)
              isOpen) ?_
            · rw [String.append_assoc, String.toList_append, comma, List.singleton_append,
                tokens_punctuation rfl, String.toList_append, tokens_lineBreak]
              rfl
            · rw [String.append_assoc, String.toList_append, comma]
              rintro _ ⟨⟩
              rfl

/-- An array breaks off at its first item or behind its bracket. -/
theorem written_arrayChunks_of_halts :
    ∃ text, written (arrayChunks depth (parts.map line)) = (text, .error {}) ∧ Open text := by
  obtain ⟨text, stopped, broken⟩ :=
    halts_lineChunks kinds halts (depth + 1) ("[" ++ lineBreak (depth + 1))
  obtain ⟨part, member, _⟩ := halts
  have nonempty : (parts.map line).isEmpty = false := by
    simpa using List.ne_nil_of_mem member
  rw [arrayChunks, nonempty, if_neg Bool.false_ne_true]
  refine ⟨text, written_append_of_error stopped _, ?_⟩
  rcases broken with rfl | ⟨more, rfl, isOpen⟩
  · exact open_empty
  · have bracket : ("[" : String).toList = ['['] := rfl
    refine .of_tokens [.openArray] ?_ (by decide) (by simp) isOpen
    rw [String.append_assoc, String.toList_append, bracket, List.singleton_append,
      tokens_punctuation rfl, String.toList_append, tokens_lineBreak]
    rfl

/-- An object breaks off behind its brace. -/
theorem written_objectChunks_of_halts :
    ∃ more, written (objectChunks depth (parts.map line)) = ("\x7b" ++ more, .error {}) ∧
      Open more := by
  obtain ⟨text, stopped, broken⟩ := halts_lineChunks kinds halts (depth + 1) ""
  obtain ⟨part, member, _⟩ := halts
  have nonempty : (parts.map line).isEmpty = false := by
    simpa using List.ne_nil_of_mem member
  rw [objectChunks, nonempty, if_neg Bool.false_ne_true, List.cons_append, List.cons_append,
    written_ok, written_ok, written_append_of_error stopped]
  refine ⟨_, rfl, ?_⟩
  have isOpen : Open text := by
    rcases broken with rfl | ⟨more, rfl, isOpen⟩
    · exact open_empty
    · rwa [String.empty_append]
  refine .of_tokens [] ?_ (Int.le_refl 0) List.not_mem_nil isOpen
  rw [String.toList_append, tokens_lineBreak]
  rfl

end Lines

/-- A value without an integer of too many digits has a text that is scanned into settled tokens. -/
theorem rounded_indented {value : Json} (short : ¬ Overlong value) (depth : Nat) :
    Rounded (value.indented depth) :=
  ⟨value.spelled, spells_indented value depth, settled_spelled short⟩

theorem tokens_brace (more : String) :
    tokens ("\x7b" ++ more).toList = .openObject :: tokens more.toList := by
  have brace : ("\x7b" : String).toList = ['\x7b'] := rfl
  rw [String.toList_append, brace, List.singleton_append, tokens_punctuation rfl]

/-- A field breaks off if its value does or its name cannot be made, and otherwise it is written to
its end. -/
theorem field_cases (name : Except OverlongInteger Utf16) {value : Json} {depth : Nat}
    (halts : Overlong value → Line.Halts (value.chunks depth)) :
    (fieldLine name (value.chunks depth "")).Halts ∨
      (fieldLine name (value.chunks depth "")).Writes
          (indentedField depth (name.toOption.getD "", value)) ∧
        Rounded (indentedField depth (name.toOption.getD "", value)) := by
  cases name with
  | error => exact .inl (halts_unnamed rfl _)
  | ok name =>
      by_cases overlong : Overlong value
      · exact .inl (halts_field (halts overlong))
      · exact .inr ⟨writes_field (writes_chunks overlong depth), spelledField (name, value),
          (spells_indented value depth).field, (settled_spelled overlong).field⟩

/-- **A value with an integer of too many digits breaks off.** -/
theorem halts_chunks {value : Json} (overlong : Overlong value) (depth : Nat) :
    Line.Halts (value.chunks depth) := by
  induction value generalizing depth with
  | null | bool | text => cases overlong
  | number value =>
      obtain ⟨large⟩ := overlong
      intro lead
      refine ⟨"", ?_, .inl rfl⟩
      rw [chunks, writeNumber, writeInteger_of_le large]
      rfl
  | array items ih =>
      cases overlong with
      | @item _ item member overlong =>
          have kinds : ∀ item ∈ items, Line.Halts (item.chunks (depth + 1)) ∨
              Line.Writes (item.chunks (depth + 1)) (item.indented (depth + 1)) ∧
                Rounded (item.indented (depth + 1)) := by
            intro item member
            by_cases overlong : Overlong item
            · exact .inl (ih item member overlong _)
            · exact .inr ⟨writes_chunks overlong _, rounded_indented overlong _⟩
          obtain ⟨text, stopped, isOpen⟩ := written_arrayChunks_of_halts kinds
            ⟨item, member, ih item member overlong _⟩ depth
          intro lead
          refine ⟨lead ++ text, ?_, .inr ⟨text, rfl, isOpen⟩⟩
          rw [chunks, itemLines_eq_map, written_ok, stopped]
  | object fields ih =>
      cases overlong with
      | @field _ field member overlong =>
          obtain ⟨more, stopped, isOpen⟩ := written_objectChunks_of_halts
            (fun field member => field_cases (.ok field.1) (ih field member · (depth + 1)))
            ⟨field, member, halts_field (ih field member overlong _)⟩ depth
          intro lead
          refine ⟨lead ++ ("\x7b" ++ more), ?_, .inr ⟨_, rfl, ?_⟩⟩
          · rw [chunks, fieldLines_eq_map, written_ok, stopped]
          · exact .of_tokens [.openObject] (tokens_brace more) (by decide) (by simp) isOpen

/-! ## Objects that break off -/

/-- A value that is written to its end leaves nothing open. -/
theorem weight_indented {value : Json} (short : ¬ Overlong value) :
    weight (tokens (value.indented 0).toList) = 0 := by
  have scanned := spells_indented value 0 [] nofun
  rw [List.append_nil] at scanned
  rw [scanned, weight_append, (settled_spelled short).weight]
  rfl

theorem weight_of_open {more : String} (isOpen : Open more) :
    1 ≤ weight (tokens ("\x7b" ++ more).toList) := by
  rw [tokens_brace, weight_cons, Token.weight]
  have nonneg := isOpen.weight
  omega

/-- **An object that breaks off is no JSON.** -/
theorem read_of_broken {more : String} (isOpen : Open more) :
    read ("\x7b" ++ more) = .error .malformed := by
  refine read_of_open (weight_of_open isOpen) ?_
  rw [tokens_brace]
  simp [isOpen.short]

end InfixFormula.Json
