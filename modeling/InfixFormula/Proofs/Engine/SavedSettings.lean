import InfixFormula.Engine.Basic
import InfixFormula.Proofs.Settings.Saved

/-!
# Saved settings are in force

After settings have been accepted and saved, the settings file stands for them: whatever the file
was before, the table that was checked is loaded from it, name by name as well, and is accepted
again as it is; and where no settings are given, the engine builds what it builds with the settings
themselves (`saved_in_force`).
-/

set_option autoImplicit false

namespace InfixFormula.Engine

open SettingStore

/-- Settings in the file are read as if they were given. -/
theorem settings_of_saved {fields : List (Utf16 × Json)} (accepted : Accepts (.object fields))
    (legible : ∀ field ∈ fields, field.2.Legible) :
    let store := (save (.object fields)).1
    Engine.settings store .null = Engine.settings store (.object fields) := by
  intro store
  have loads : store.load = .ok (Settings.overlaid fields) := load_of_saved accepted legible
  rw [Engine.settings, loads]
  simp only [Engine.settings, settingsOf, Settings.tableOf_object]
  rfl

/-- **Saved settings are in force.** After any run of calls that ends with settings that are
accepted, the file holds what the check of these settings gives. It is loaded as a whole and by
name, checking it once more changes nothing, and building a list of terms without settings, or the
terms of an equation, is building it with these settings. -/
theorem saved_in_force {fields : List (Utf16 × Json)} (accepted : Accepts (.object fields))
    (legible : ∀ field ∈ fields, field.2.Legible) (previous : SettingStore) (earlier : List Json) :
    let store := saveAll previous (earlier ++ [.object fields])
    ∃ table, checked (.object fields) = .ok table ∧ store.load = .ok table ∧
      (∀ name default, store.loadValue name default = .ok ((table.get? name).getD default)) ∧
      checked (.object table.fields) = .ok table ∧
      ∀ symbols terms,
        build store symbols .null terms = build store symbols (.object fields) terms ∧
        buildEquation store symbols .null terms =
          buildEquation store symbols (.object fields) terms := by
  intro store
  have usable := accepted.object.1
  have last : store = (save (.object fields)).1 := saveAll_concat _ _ _
  have loads : store.load = .ok (Settings.overlaid fields) := by
    rw [last]
    exact load_of_saved accepted legible
  have inForce : Engine.settings store .null = Engine.settings store (.object fields) := by
    rw [last]
    exact settings_of_saved accepted legible
  have again := Settings.overlaid_fields fields
  refine ⟨Settings.overlaid fields, checked_of_usable usable, loads, loadValue_of_load loads, ?_,
    fun symbols terms => ⟨?_, ?_⟩⟩
  · have usableAgain : (Settings.overlaid (Settings.overlaid fields).fields).Usable := by
      rw [again]
      exact usable
    rw [checked_of_usable usableAgain, again]
  · simp only [build, create, inForce]
  · simp only [buildEquation, inForce]

set_option maxRecDepth 10000 in
/-- A depth and an unknown setting with values of several kinds, saved after a call that is refused,
are loaded, and the depth holds for a sum that is built without settings. -/
theorem saved_in_force_unknown :
    let note := Json.array [.null, .number (.real 0.5), .text "\u03c0", .object [("a", .array [])]]
    let given := Json.object [("note", note), ("max_depth", .number (.integer 12))]
    let store := saveAll .initial [depthSetting 0, given]
    Accepts given ∧ store.loadValue "note" .null = .ok note ∧
      store.loadValue "max_depth" .null = .ok (.number (.integer 12)) ∧
      build store {} .null ["x", "+", "1"] = build store {} given ["x", "+", "1"] := by
  intro note given store
  have accepted : Accepts given := rfl
  have legible : ∀ field ∈ [(("note" : Utf16), note), ("max_depth", .number (.integer 12))],
      field.2.Legible := by
    have empty : (Json.array []).Legible := .array nofun
    have inner : (Json.object [("a", .array [])]).Legible :=
      .object (by decide) (List.forall_mem_singleton.mpr empty)
    have noteLegible : note.Legible := by
      refine .array ?_
      simp only [List.forall_mem_cons]
      exact ⟨.null, .real rfl, .text _, inner, nofun⟩
    simp only [List.forall_mem_cons]
    exact ⟨noteLegible, .integer (by decide), nofun⟩
  obtain ⟨table, checks, _, byName, _, builds⟩ :=
    saved_in_force accepted legible .initial [depthSetting 0]
  cases checks
  exact ⟨accepted, byName "note" .null, byName "max_depth" .null, (builds {} _).1⟩

end InfixFormula.Engine
