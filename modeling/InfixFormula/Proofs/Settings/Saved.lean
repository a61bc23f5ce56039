import InfixFormula.Proofs.Json.RoundTrip
import InfixFormula.Proofs.Settings.Saving
import InfixFormula.Proofs.Settings.Usable

/-!
# Loading what was saved

Saving settings lays them over the defaults and writes the table as one object. The object is laid
over the defaults once more when the file is loaded, and the table comes back (`load_of_saved`).
This is so because laying the fields of an object over the defaults keeps the names of the defaults
in front and gives no name two entries (`SettingTable.Extends`), and a table of that kind, laid over
the defaults, gives itself (`putAll_of_extends`).
-/

set_option autoImplicit false

namespace InfixFormula

namespace SettingTable

/-! ## Names that are put into a table -/

/-- A table whose names are texts, each with one entry, and start with the names of another
table. -/
structure Extends (table base : SettingTable) : Prop where
  textual : ∀ name ∈ table.map Prod.fst, ∃ text, name = .text text
  nodup : (table.map Prod.fst).Nodup
  starts : base.map Prod.fst <+: table.map Prod.fst

theorem put_cons_same (text : Utf16) (old value : Json) (table : SettingTable) :
    put (.text text) value ((.text text, old) :: table) = (.text text, value) :: table := by
  rw [put, if_pos (same_text.mpr rfl)]

theorem put_cons_of_ne {entry : SettingName × Json} {text : Utf16} (other : entry.1 ≠ .text text)
    (value : Json) (table : SettingTable) :
    put (.text text) value (entry :: table) = entry :: put (.text text) value table := by
  rw [put, if_neg fun same => other (same_text.mp same)]

/-- A name that is present stays where it is, and a new name is the last one. -/
theorem names_put (table : SettingTable) (text : Utf16) (value : Json) :
    (table.put (.text text) value).map Prod.fst =
      if .text text ∈ table.map Prod.fst then table.map Prod.fst
      else table.map Prod.fst ++ [.text text] := by
  induction table with
  | nil => rfl
  | cons entry table ih =>
      by_cases here : entry.1 = .text text
      · obtain ⟨_, old⟩ := entry
        cases here
        simp [put_cons_same]
      · rw [put_cons_of_ne here, List.map_cons, ih, List.map_cons]
        simp only [List.mem_cons, Ne.symm here, false_or]
        split <;> rfl

theorem Extends.put {table base : SettingTable} (kept : table.Extends base) (text : Utf16)
    (value : Json) : (table.put (.text text) value).Extends base := by
  by_cases present : .text text ∈ table.map Prod.fst
  · have same := names_put table text value
    rw [if_pos present] at same
    exact ⟨same ▸ kept.textual, same ▸ kept.nodup, same ▸ kept.starts⟩
  · have added := names_put table text value
    rw [if_neg present] at added
    refine ⟨?_, ?_, ?_⟩
    · rw [added, List.forall_mem_append]
      exact ⟨kept.textual, fun name member => ⟨text, List.mem_singleton.mp member⟩⟩
    · rw [added, List.nodup_append]
      refine ⟨kept.nodup, by simp, ?_⟩
      rintro name member _ last rfl
      rw [List.mem_singleton] at last
      exact present (last ▸ member)
    · rw [added]
      exact kept.starts.trans (List.prefix_append _ _)

/-- **Laying fields over a table extends it.** -/
theorem Extends.putFields {base : SettingTable} (fields : List (Utf16 × Json)) :
    ∀ {table : SettingTable}, table.Extends base →
      (table.putAll (fields.map fun field => (.text field.1, field.2))).Extends base := by
  induction fields with
  | nil => exact id
  | cons field fields ih => exact fun kept => ih (kept.put field.1 field.2)

/-! ## A table laid over the one it extends -/

/-- Entries with other names leave the first entry of a table. -/
theorem putAll_cons {entry : SettingName × Json} {entries : List (SettingName × Json)}
    (textual : ∀ name ∈ entries.map Prod.fst, ∃ text, name = .text text)
    (other : entry.1 ∉ entries.map Prod.fst) (table : SettingTable) :
    putAll (entry :: table) entries = entry :: putAll table entries := by
  induction entries generalizing table with
  | nil => rfl
  | cons next entries ih =>
      obtain ⟨⟨text, named⟩, textual⟩ := List.forall_mem_cons.mp textual
      obtain ⟨differs, other⟩ := List.ne_and_not_mem_of_not_mem_cons other
      show putAll (SettingTable.put next.1 next.2 (entry :: table)) entries =
        entry :: putAll (SettingTable.put next.1 next.2 table) entries
      rw [named] at differs ⊢
      rw [put_cons_of_ne differs, ih textual other]

/-- **A table that extends another one, laid over it, gives itself.** -/
theorem putAll_of_extends {table base : SettingTable} (kept : table.Extends base) :
    base.putAll table = table := by
  induction table generalizing base with
  | nil =>
      have none : base = [] := by simpa using kept.starts
      rw [none]
      rfl
  | cons entry table ih =>
      obtain ⟨⟨text, named⟩, textual⟩ := List.forall_mem_cons.mp kept.textual
      obtain ⟨new, nodup⟩ := List.nodup_cons.mp kept.nodup
      have first (rest : SettingTable) (starts : rest.map Prod.fst <+: table.map Prod.fst) :
          putAll (entry :: rest) table = entry :: table := by
        rw [putAll_cons textual new, ih ⟨textual, nodup, starts⟩]
      cases base with
      | nil => exact first [] List.nil_prefix
      | cons old base =>
          obtain ⟨same, starts⟩ := List.cons_prefix_cons.mp kept.starts
          have replaced : SettingTable.put entry.1 entry.2 (old :: base) = entry :: base := by
            rw [SettingTable.put, same, named, if_pos (same_text.mpr rfl), ← named]
          show putAll (SettingTable.put entry.1 entry.2 (old :: base)) table = _
          rw [replaced, first base starts]

/-! ## A table as an object -/

/-- The fields of a table with textual names have the entries of the table. -/
theorem fields_entries {table : SettingTable}
    (textual : ∀ name ∈ table.map Prod.fst, ∃ text, name = .text text) :
    table.fields.map (fun field => (.text field.1, field.2)) = table := by
  induction table with
  | nil => rfl
  | cons entry table ih =>
      obtain ⟨⟨text, named⟩, later⟩ := List.forall_mem_cons.mp textual
      obtain ⟨name, value⟩ := entry
      cases named
      exact congrArg ((SettingName.text text, value) :: ·) (ih later)

/-- A table with textual names is written with its fields. -/
theorem named_eq_fields {table : SettingTable}
    (textual : ∀ name ∈ table.map Prod.fst, ∃ text, name = .text text) :
    table.named = table.fields := by
  have entries := congrArg named (fields_entries textual)
  rw [← entries, named, List.map_map]
  exact List.map_id _

theorem fields_nodup {table base : SettingTable} (kept : table.Extends base) :
    (table.fields.map Prod.fst).Nodup := by
  have nodup := kept.nodup
  have names : table.map Prod.fst = (table.fields.map Prod.fst).map SettingName.text := by
    rw [← congrArg (List.map Prod.fst) (fields_entries kept.textual), List.map_map, List.map_map]
    rfl
  rw [names] at nodup
  exact List.Pairwise.of_map SettingName.text (fun _ _ differs same => differs (congrArg _ same))
    nodup

/-- What holds of the values of a table and of a value that is put in, holds of all values then. -/
theorem forall_put {holds : Json → Prop} {table : SettingTable}
    (all : ∀ entry ∈ table, holds entry.2) (name : SettingName) {value : Json}
    (new : holds value) : ∀ entry ∈ table.put name value, holds entry.2 := by
  induction table with
  | nil => exact fun entry member => List.mem_singleton.mp member ▸ new
  | cons first table ih =>
      obtain ⟨here, later⟩ := List.forall_mem_cons.mp all
      rw [put]
      split
      next => exact List.forall_mem_cons.mpr ⟨new, later⟩
      next => exact List.forall_mem_cons.mpr ⟨here, ih later⟩

theorem forall_putAll {holds : Json → Prop} (entries : List (SettingName × Json)) :
    ∀ {table : SettingTable}, (∀ entry ∈ table, holds entry.2) →
      (∀ entry ∈ entries, holds entry.2) → ∀ entry ∈ table.putAll entries, holds entry.2 := by
  induction entries with
  | nil => exact fun all _ => all
  | cons entry entries ih =>
      intro table all new
      obtain ⟨first, later⟩ := List.forall_mem_cons.mp new
      exact ih (forall_put all entry.1 first) later

end SettingTable

namespace Settings

theorem extends_overlaid (fields : List (Utf16 × Json)) :
    (overlaid fields).Extends defaults := by
  have kept : defaults.Extends defaults := by
    refine ⟨?_, by decide, List.prefix_refl _⟩
    simp [defaults]
  exact kept.putFields fields

/-- **Laying settings over the defaults twice changes nothing more.** -/
theorem overlaid_fields (fields : List (Utf16 × Json)) :
    overlaid (overlaid fields).fields = overlaid fields := by
  have kept := extends_overlaid fields
  rw [overlaid, SettingTable.fields_entries kept.textual]
  exact SettingTable.putAll_of_extends kept

theorem legible_overlaid {fields : List (Utf16 × Json)}
    (legible : ∀ field ∈ fields, field.2.Legible) :
    (Json.object (overlaid fields).fields).Legible := by
  have defaultsLegible : ∀ entry ∈ defaults, entry.2.Legible := by
    simp only [defaults, List.forall_mem_cons]
    exact ⟨.bool _, .integer (by decide), .text _, nofun⟩
  have values : ∀ entry ∈ overlaid fields, entry.2.Legible := by
    refine SettingTable.forall_putAll _ defaultsLegible fun entry member => ?_
    obtain ⟨field, given, rfl⟩ := List.mem_map.mp member
    exact legible field given
  refine .object (SettingTable.fields_nodup (extends_overlaid fields)) fun field member => ?_
  rw [← SettingTable.fields_entries (extends_overlaid fields).textual] at values
  exact values _ (List.mem_map_of_mem member)

end Settings

namespace SettingStore

open SettingTable

/-- An object that is accepted gives the defaults under its fields, which can be used and
written. -/
theorem Accepts.object {fields : List (Utf16 × Json)} (accepted : Accepts (.object fields)) :
    (Settings.overlaid fields).Usable ∧ ¬ (Settings.overlaid fields).Overlong := by
  obtain ⟨table, checks, short⟩ := accepts_iff.mp accepted
  by_cases usable : (Settings.overlaid fields).Usable
  · rw [checked_of_usable usable] at checks
    cases checks
    exact ⟨usable, short⟩
  · obtain ⟨value, refused⟩ := Settings.not_usable_iff.mp usable
    rcases checked_of_refusedFor refused with ⟨_, cause, failed⟩ | ⟨_, failed⟩ <;>
      rw [failed] at checks <;> cases checks

/-- **What was saved is loaded.** -/
theorem load_of_saved {fields : List (Utf16 × Json)} (accepted : Accepts (.object fields))
    (legible : ∀ field ∈ fields, field.2.Legible) :
    (save (.object fields)).1.load = .ok (Settings.overlaid fields) := by
  obtain ⟨usable, short⟩ := accepted.object
  have written : (save (.object fields)).1 =
      ofText ((Json.object (Settings.overlaid fields).fields).indented 0) := by
    simp only [save, checked_of_usable usable, written_chunks_of_short short,
      named_eq_fields (Settings.extends_overlaid fields).textual]
  have read := read?_ofText ((Json.object (Settings.overlaid fields).fields).indented 0)
  rw [Json.read_indented (Settings.legible_overlaid legible)] at read
  rw [written, load_of_read read, loaded_value_eq_ok_iff]
  exact ⟨_, rfl, Settings.overlaid_fields fields⟩

end SettingStore

end InfixFormula
