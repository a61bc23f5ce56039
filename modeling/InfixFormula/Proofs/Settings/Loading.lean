import InfixFormula.Proofs.Result
import InfixFormula.Settings.Store

/-!
# Loading whatever the file holds

One would expect that the settings file never stands in the way: an object in it is laid over the
defaults, and anything else counts as no settings at all (`expectedTable`). Loading keeps to this
for objects, for a missing file and for a text that is no JSON. But bytes that are no text, an
integer with too many digits, and JSON that lists no settings are faults, and pairs in an array are
laid over the defaults like the fields of an object (`load_eq_expectedTable_iff`).

What a JSON value lists (`SettingTable.listed?`) is said apart from the table it is laid over:
laying it over fails exactly if it lists nothing, and otherwise puts in what it lists
(`overlay_eq_ok_iff`). For an object this gives every name its last value among the fields, and
leaves the other names as they are (`get?_putFields`).
-/

set_option autoImplicit false

namespace InfixFormula

namespace SettingTable

/-! ## What a JSON value lists -/

/-- Puts names with values into a table, one after the other. -/
def putAll (table : SettingTable) (entries : List (SettingName × Json)) : SettingTable :=
  entries.foldl (fun table entry => table.put entry.1 entry.2) table

/-- The name and the value of an item of an array. -/
def entry? (item : Json) : Option (SettingName × Json) :=
  match pair? item with
  | .ok (name, value) => (SettingName.ofJson? name).map fun name => (name, value)
  | .error _ => none

/-- The names and values that a JSON value lists: the fields of an object, the pairs in an array,
and nothing in an empty text. -/
def listed? : Json → Option (List (SettingName × Json))
  | .object fields => some (fields.map fun field => (.text field.1, field.2))
  | .array items => items.mapM entry?
  | .text value => if value.isEmpty then some [] else none
  | _ => none

theorem putItem_eq_ok_iff {table result : SettingTable} {item : Json} :
    table.putItem item = .ok result ↔
      ∃ entry, entry? item = some entry ∧ table.put entry.1 entry.2 = result := by
  rw [putItem, entry?]
  rcases pair? item with fault | ⟨name, value⟩
  · exact ⟨nofun, nofun⟩
  · cases found : SettingName.ofJson? name with
    | none => simp [bind, Except.bind, found]
    | some name => simp [bind, Except.bind, found, pure, Except.pure]

theorem foldlM_putItem_eq_ok_iff {items : List Json} {table result : SettingTable} :
    items.foldlM putItem table = .ok result ↔
      ∃ entries, items.mapM entry? = some entries ∧ table.putAll entries = result := by
  induction items generalizing table with
  | nil => simp [putAll, pure, Except.pure]
  | cons item items ih =>
      rw [List.foldlM_cons, bind_eq_ok_iff, List.mapM_cons]
      simp only [putItem_eq_ok_iff, ih, Option.bind_eq_bind, Option.bind_eq_some_iff]
      constructor
      · rintro ⟨middle, ⟨entry, read, rfl⟩, entries, readRest, rfl⟩
        exact ⟨entry :: entries, ⟨entry, read, entries, readRest, rfl⟩, rfl⟩
      · rintro ⟨_, ⟨entry, read, entries, readRest, ⟨⟩⟩, rfl⟩
        exact ⟨_, ⟨entry, read, rfl⟩, entries, readRest, rfl⟩

/-- **A JSON value is laid over a table by putting in what it lists.** -/
theorem overlay_eq_ok_iff {table result : SettingTable} {value : Json} :
    table.overlay value = .ok result ↔
      ∃ entries, listed? value = some entries ∧ table.putAll entries = result := by
  cases value with
  | object fields => simp [overlay, listed?, putAll, List.foldl_map]
  | array items => exact foldlM_putItem_eq_ok_iff
  | text value =>
      rw [overlay, listed?]
      split
      next => simp [putAll]
      next => simp
  | _ => simp [overlay, listed?]

/-- Laying a JSON value over a table fails exactly if it lists nothing. -/
theorem overlay_eq_error_iff {table : SettingTable} {value : Json} :
    (∃ fault, table.overlay value = .error fault) ↔ listed? value = none := by
  have succeeds := @overlay_eq_ok_iff table
  cases laid : table.overlay value with
  | ok result =>
      obtain ⟨entries, read, _⟩ := succeeds.mp laid
      simp [read]
  | error fault =>
      cases read : listed? value with
      | none => simp
      | some entries =>
          rw [succeeds.mpr ⟨entries, read, rfl⟩] at laid
          cases laid

/-! ## What is read from a table -/

theorem same_text {name : SettingName} {text : Utf16} :
    name.same (.text text) = true ↔ name = .text text := by
  cases name <;> simp [SettingName.same, SettingName.number?]

theorem get?_cons (entry : SettingName × Json) (table : SettingTable) (name : String) :
    get? (entry :: table) name =
      if entry.1 = .text name then some entry.2 else get? table name := by
  simp only [get?, List.find?_cons, ← same_text]
  cases entry.1.same (.text name) <;> rfl

theorem get?_put (table : SettingTable) (text : Utf16) (value : Json) (name : String) :
    (table.put (.text text) value).get? name =
      if text = name then some value else table.get? name := by
  induction table with
  | nil => simp [put, get?_cons]
  | cons entry table ih =>
      rw [put]
      by_cases here : entry.1 = .text text
      · rw [if_pos (same_text.mpr here), get?_cons, get?_cons]
        simp only [here, SettingName.text.injEq]
        split <;> rfl
      · rw [if_neg fun same => here (same_text.mp same), get?_cons, get?_cons, ih]
        split
        next found =>
          have other : text ≠ name := fun same => here (found.trans (congrArg _ same.symm))
          rw [if_neg other]
        next => rfl

/-- **The fields of an object replace what a table has under their names**, a later field before an
earlier one, and leave the rest. -/
theorem get?_putFields (fields : List (Utf16 × Json)) (table : SettingTable) (name : String) :
    (table.putAll (fields.map fun field => (.text field.1, field.2))).get? name =
      (fields.reverse.lookup (name : Utf16)).or (table.get? name) := by
  induction fields generalizing table with
  | nil => rfl
  | cons field fields ih =>
      have later := ih (table.put (.text field.1) field.2)
      rw [get?_put] at later
      rw [List.map_cons, putAll, List.foldl_cons, ← putAll, later, List.reverse_cons,
        List.lookup_append, Option.or_assoc]
      congr 1
      rw [List.lookup_cons, List.lookup_nil]
      by_cases named : field.1 = name
      · simp [named]
      · simp [named, beq_false_of_ne (Ne.symm named)]

end SettingTable

namespace SettingStore

open SettingTable

/-! ## What the file holds -/

/-- What the text in the file reads as, if the file is there and holds a text. -/
def read? (store : SettingStore) : Option (Except Json.ReadFault Json) :=
  store.contents.bind fun bytes => (String.fromUTF8? bytes).map Json.read

/-- Whether the file is there and holds no text. -/
def HoldsNoText (store : SettingStore) : Prop :=
  ∃ bytes, store.contents = some bytes ∧ String.fromUTF8? bytes = none

/-- The table that one would expect: an object in the file over the defaults, and the defaults in
every other case. -/
def expectedTable (store : SettingStore) : SettingTable :=
  match store.read? with
  | some (.ok (.object fields)) =>
      Settings.defaults.putAll (fields.map fun field => (.text field.1, field.2))
  | _ => Settings.defaults

/-- A file is missing, holds no text, or holds a text. -/
theorem contents_cases (store : SettingStore) :
    (store.contents = none ∧ store.read? = none) ∨ (store.HoldsNoText ∧ store.read? = none) ∨
      ∃ outcome, store.read? = some outcome := by
  simp only [HoldsNoText, read?]
  cases store.contents with
  | none => exact .inl ⟨rfl, rfl⟩
  | some bytes =>
      cases decoded : String.fromUTF8? bytes with
      | none => exact .inr (.inl ⟨⟨bytes, rfl, decoded⟩, by rw [Option.bind_some, decoded]; rfl⟩)
      | some text => exact .inr (.inr ⟨Json.read text, by rw [Option.bind_some, decoded]; rfl⟩)

theorem load_of_missing {store : SettingStore} (missing : store.contents = none) :
    store.load = .ok Settings.defaults := by
  rw [load, missing]

theorem load_of_noText {store : SettingStore} (noText : store.HoldsNoText) :
    store.load = .error .notText := by
  obtain ⟨bytes, held, undecoded⟩ := noText
  rw [load, held]
  simp only [undecoded]

/-- What is loaded from a text, by what the text reads as. -/
def loaded : Except Json.ReadFault Json → Except LoadFault SettingTable
  | .ok value => (Settings.defaults.overlay value).mapError .overlay
  | .error .malformed => .ok Settings.defaults
  | .error .overlongInteger => .error .overlongInteger

theorem load_of_read {store : SettingStore} {outcome : Except Json.ReadFault Json}
    (read : store.read? = some outcome) : store.load = loaded outcome := by
  obtain ⟨bytes, held, found⟩ := Option.bind_eq_some_iff.mp read
  obtain ⟨text, decoded, same⟩ := Option.map_eq_some_iff.mp found
  rw [load, held, ← same]
  simp only [decoded]
  rfl

/-- What a file with a text reads as. -/
theorem read?_ofText (text : String) : (ofText text).read? = some (Json.read text) := by
  have decoded : String.fromUTF8? text.toUTF8 = some text := dif_pos text.isValidUTF8
  rw [read?, ofText, Option.bind_some, decoded]
  rfl

/-- A JSON value is loaded with what it lists. -/
theorem loaded_value_eq_ok_iff {value : Json} {table : SettingTable} :
    loaded (.ok value) = .ok table ↔
      ∃ entries, listed? value = some entries ∧ Settings.defaults.putAll entries = table := by
  rw [loaded, mapError_eq_ok_iff, overlay_eq_ok_iff]

theorem loaded_value_eq_error_iff {value : Json} :
    (∃ fault, loaded (.ok value) = .error fault) ↔ listed? value = none := by
  rw [← @overlay_eq_error_iff Settings.defaults, loaded]
  cases Settings.defaults.overlay value with
  | ok table => exact ⟨nofun, nofun⟩
  | error fault => exact ⟨fun _ => ⟨fault, rfl⟩, fun _ => ⟨.overlay fault, rfl⟩⟩

/-! ## Loading as one would expect -/

/-- The file is missing, holds no JSON, or holds an object or something that lists nothing new. -/
inductive Regular (store : SettingStore) : Prop
  | missing : store.contents = none → Regular store
  | malformed : store.read? = some (.error .malformed) → Regular store
  | object {fields : List (Utf16 × Json)} : store.read? = some (.ok (.object fields)) →
      Regular store
  | idle {value : Json} {entries : List (SettingName × Json)} :
      store.read? = some (.ok value) → listed? value = some entries →
      Settings.defaults.putAll entries = Settings.defaults → Regular store

/-- The file holds bytes that are no text, an integer with too many digits, or JSON that lists no
settings. -/
inductive Obstructed (store : SettingStore) : Prop
  | noText : store.HoldsNoText → Obstructed store
  | overlong : store.read? = some (.error .overlongInteger) → Obstructed store
  | unlisted {value : Json} : store.read? = some (.ok value) → listed? value = none →
      Obstructed store

theorem load_eq_ok_expectedTable_iff (store : SettingStore) :
    store.load = .ok store.expectedTable ↔ store.Regular := by
  constructor
  · intro loads
    rcases store.contents_cases with ⟨missing, _⟩ | ⟨noText, _⟩ | ⟨outcome, read⟩
    · exact .missing missing
    · rw [load_of_noText noText] at loads
      cases loads
    · rw [load_of_read read] at loads
      cases outcome with
      | error fault =>
          cases fault with
          | malformed => exact .malformed read
          | overlongInteger => cases loads
      | ok value =>
          obtain ⟨entries, lists, same⟩ := loaded_value_eq_ok_iff.mp loads
          rw [expectedTable, read] at same
          cases value with
          | object fields => exact .object read
          | _ => exact .idle read lists same
  · intro regular
    cases regular with
    | missing missing =>
        rw [load_of_missing missing, expectedTable, read?, missing]
        rfl
    | malformed read =>
        rw [load_of_read read, expectedTable, read]
        rfl
    | object read =>
        rw [load_of_read read, expectedTable, read]
        exact loaded_value_eq_ok_iff.mpr ⟨_, rfl, rfl⟩
    | @idle value entries read lists same =>
        rw [load_of_read read, loaded_value_eq_ok_iff, expectedTable, read]
        refine ⟨entries, lists, ?_⟩
        cases value with
        | object fields =>
            cases lists
            rfl
        | _ => exact same

theorem load_eq_error_iff (store : SettingStore) :
    (∃ fault, store.load = .error fault) ↔ store.Obstructed := by
  constructor
  · rintro ⟨fault, failed⟩
    rcases store.contents_cases with ⟨missing, _⟩ | ⟨noText, _⟩ | ⟨outcome, read⟩
    · rw [load_of_missing missing] at failed
      cases failed
    · exact .noText noText
    · rw [load_of_read read] at failed
      cases outcome with
      | ok value => exact .unlisted read (loaded_value_eq_error_iff.mp ⟨fault, failed⟩)
      | error fault =>
          cases fault with
          | malformed => cases failed
          | overlongInteger => exact .overlong read
  · intro obstructed
    cases obstructed with
    | noText noText => exact ⟨_, load_of_noText noText⟩
    | overlong read => exact ⟨_, load_of_read read⟩
    | unlisted read unlisted =>
        rw [load_of_read read]
        exact loaded_value_eq_error_iff.mpr unlisted

theorem loadValue_of_load {store : SettingStore} {table : SettingTable}
    (loads : store.load = .ok table) (name : String) (default : Json) :
    store.loadValue name default = .ok ((table.get? name).getD default) := by
  rw [loadValue, loads]
  rfl

/-- **What is loaded is what one would expect** exactly if the file is missing, holds no JSON, or
holds an object or something that lists nothing new; **loading fails** exactly if the file holds
bytes that are no text, an integer with too many digits, or JSON that lists no settings. A single
setting is loaded like the whole table: from an object it gets its last value among the fields, or
else that of the defaults. -/
theorem load_eq_expectedTable_iff (store : SettingStore) :
    (store.load = .ok store.expectedTable ↔ store.Regular) ∧
    ((∃ fault, store.load = .error fault) ↔ store.Obstructed) ∧
    ∀ (name : String) (default : Json),
      ((∃ fault, store.loadValue name default = .error fault) ↔ store.Obstructed) ∧
      (store.Regular →
        store.loadValue name default = .ok ((store.expectedTable.get? name).getD default)) ∧
      ∀ fields, store.read? = some (.ok (.object fields)) →
        store.loadValue name default =
          .ok (((fields.reverse.lookup (name : Utf16)).or
            (Settings.defaults.get? name)).getD default) := by
  refine ⟨store.load_eq_ok_expectedTable_iff, store.load_eq_error_iff, fun name default =>
    ⟨?_, fun regular => ?_, fun fields read => ?_⟩⟩
  · rw [← load_eq_error_iff]
    cases loads : store.load with
    | ok table =>
        rw [loadValue_of_load loads]
        exact ⟨nofun, nofun⟩
    | error fault =>
        rw [loadValue, loads]
        exact ⟨fun _ => ⟨fault, rfl⟩, fun _ => ⟨fault, rfl⟩⟩
  · exact loadValue_of_load (store.load_eq_ok_expectedTable_iff.mpr regular) name default
  · have loads := store.load_eq_ok_expectedTable_iff.mpr (.object read)
    rw [loadValue_of_load loads, expectedTable, read, ← get?_putFields]

set_option maxRecDepth 10000 in
/-- **The file may stand in the way of loading**: a byte that is no text and a number are faults
where one would expect the defaults, and a pair in an array changes a default. -/
theorem load_not_expected :
    (⟨some ⟨#[0xff]⟩⟩ : SettingStore).load = .error .notText ∧
      (⟨some ⟨#[0xff]⟩⟩ : SettingStore).expectedTable = Settings.defaults ∧
      (ofText "5").load = .error (.overlay .notEntries) ∧
      (ofText "5").expectedTable = Settings.defaults ∧
      (ofText "[[\"max_depth\", 5]]").loadValue "max_depth" .null =
        .ok (.number (.integer 5)) ∧
      (ofText "[[\"max_depth\", 5]]").expectedTable = Settings.defaults :=
  ⟨rfl, rfl, rfl, rfl, rfl, rfl⟩

end SettingStore

end InfixFormula
