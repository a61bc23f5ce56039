import InfixFormula.Proofs.Json.Unfinished
import InfixFormula.Proofs.Settings.Loading

/-!
# Runs of saving

One would expect that settings which are not accepted leave the settings file as it was, so that
after any run of calls the file holds what the last accepted call has written (`lastAccepted`).
Saving empties the file before it looks at the settings, however, and so the file depends on the
last call alone. Settings that the check refuses leave an empty file. Settings that pass the check
and cannot be written, for an integer with too many digits, leave the start of a text
(`save_cases`). Neither is JSON, and so both load as the defaults (`load_of_refused`).

The expectation holds exactly for the runs that are empty or end with an accepted call, and for
those without an accepted call on a file that was before as the last call leaves it
(`saveAll_eq_lastAccepted_iff`).
-/

set_option autoImplicit false

namespace InfixFormula

namespace SettingTable

/-! ## Writing a table -/

/-- The entries as the fields of an object, where a name that cannot be written is empty. -/
def named (table : SettingTable) : List (Utf16 × Json) :=
  table.map fun entry => (entry.1.fieldName.toOption.getD "", entry.2)

/-- An integer with too many digits is a name in a table or somewhere in its values. -/
def Overlong (table : SettingTable) : Prop :=
  ∃ entry ∈ table, entry.1.fieldName = .error {} ∨ entry.2.Overlong

theorem not_overlong_named {table : SettingTable} (short : ¬ table.Overlong) :
    ¬ (Json.object table.named).Overlong := by
  rw [Json.not_overlong_object_iff, named, List.forall_mem_map]
  exact fun entry member overlong => short ⟨entry, member, .inr overlong⟩

/-- **A table without an integer of too many digits is written as an object.** -/
theorem written_chunks_of_short {table : SettingTable} (short : ¬ table.Overlong) :
    Json.written table.chunks = ((Json.object table.named).indented 0, .ok ()) := by
  have writes : ∀ entry ∈ table,
      (Json.fieldLine entry.1.fieldName (entry.2.chunks 1 "")).Writes
        (Json.indentedField 1 (entry.1.fieldName.toOption.getD "", entry.2)) := by
    intro entry member
    have shortValue : ¬ entry.2.Overlong :=
      fun overlong => short ⟨entry, member, .inr overlong⟩
    cases name : entry.1.fieldName with
    | ok name => exact Json.writes_field (Json.writes_chunks shortValue 1)
    | error => exact absurd ⟨entry, member, .inl name⟩ short
  rw [chunks, Json.written_objectChunks writes, Json.indented, Json.indentedFields_eq_map, named,
    List.map_map]
  rfl

/-- **A table with an integer of too many digits breaks off** behind the brace. -/
theorem written_chunks_of_overlong {table : SettingTable} (overlong : table.Overlong) :
    ∃ more, Json.written table.chunks = ("\x7b" ++ more, .error {}) ∧ Json.Open more := by
  refine Json.written_objectChunks_of_halts (fun entry _ =>
    Json.field_cases entry.1.fieldName fun overlong => Json.halts_chunks overlong 1) ?_ 0
  obtain ⟨entry, member, unnamed | overlong⟩ := overlong
  · exact ⟨entry, member, Json.halts_unnamed unnamed _⟩
  · refine ⟨entry, member, ?_⟩
    cases name : entry.1.fieldName with
    | ok name => exact Json.halts_field (Json.halts_chunks overlong 1)
    | error => exact Json.halts_unnamed rfl _

end SettingTable

namespace SettingStore

/-- Settings are accepted if saving them is no fault. -/
def Accepts (value : Json) : Prop :=
  (save value).2 = .ok ()

/-- The file after a run of calls that save settings. -/
def saveAll (store : SettingStore) (values : List Json) : SettingStore :=
  values.foldl (fun _ value => (save value).1) store

/-- The file that one would expect after a call: what the call has written, or the file as it was
if the call is not accepted. -/
def expected (store : SettingStore) (value : Json) : SettingStore :=
  match (save value).2 with
  | .ok () => (save value).1
  | .error _ => store

/-- The file with what the last accepted call of a run has written, or with the first contents if
no call is accepted. -/
def lastAccepted (store : SettingStore) (values : List Json) : SettingStore :=
  values.foldl expected store

/-! ## One call -/

/-- **A call writes a table as an object, breaks off behind the brace, or is refused and leaves an
empty file.** -/
theorem save_cases (value : Json) :
    (∃ table, checked value = .ok table ∧ ¬ table.Overlong ∧
      save value = (ofText ((Json.object table.named).indented 0), .ok ())) ∨
    (∃ table more, checked value = .ok table ∧ table.Overlong ∧ Json.Open more ∧
      save value = (ofText ("\x7b" ++ more), .error .overlongInteger)) ∨
    ∃ fault, checked value = .error fault ∧ save value = (ofText "", .error fault) := by
  rw [save]
  cases checks : checked value with
  | error fault => exact .inr (.inr ⟨fault, rfl, rfl⟩)
  | ok table =>
      by_cases overlong : table.Overlong
      · obtain ⟨more, stopped, isOpen⟩ := SettingTable.written_chunks_of_overlong overlong
        refine .inr (.inl ⟨table, more, rfl, overlong, isOpen, ?_⟩)
        simp only [stopped]
        rfl
      · refine .inl ⟨table, rfl, overlong, ?_⟩
        simp only [SettingTable.written_chunks_of_short overlong]
        rfl

/-- **Settings are accepted** exactly if they pass the check and can be written. -/
theorem accepts_iff {value : Json} :
    Accepts value ↔ ∃ table, checked value = .ok table ∧ ¬ table.Overlong := by
  rw [Accepts]
  rcases save_cases value with ⟨table, checks, short, saved⟩ |
    ⟨table, more, checks, overlong, _, saved⟩ | ⟨fault, refused, saved⟩
  · rw [saved]
    exact iff_of_true rfl ⟨table, checks, short⟩
  · rw [saved, checks]
    refine iff_of_false nofun ?_
    rintro ⟨_, ⟨⟩, short⟩
    exact short overlong
  · rw [saved, refused]
    exact iff_of_false nofun nofun

/-- **A call that is not accepted leaves a text that is no JSON**, and an empty one exactly if the
check has refused the settings. -/
theorem leaves_of_refused {value : Json} (refused : ¬ Accepts value) :
    ∃ text, (save value).1 = ofText text ∧ Json.read text = .error .malformed ∧
      (text = "" ↔ ∃ fault, checked value = .error fault) := by
  rcases save_cases value with ⟨_, _, _, saved⟩ | ⟨table, more, checks, _, isOpen, saved⟩ |
    ⟨fault, refuses, saved⟩
  · exact absurd (congrArg Prod.snd saved) refused
  · refine ⟨_, congrArg Prod.fst saved, Json.read_of_broken isOpen, ?_⟩
    rw [checks]
    exact iff_of_false (by simp) nofun
  · exact ⟨"", congrArg Prod.fst saved, rfl, iff_of_true rfl ⟨fault, refuses⟩⟩

theorem ofText_injective {text other : String} (same : ofText text = ofText other) :
    text = other := by
  have bytes := Option.some.inj (congrArg contents same)
  exact String.toByteArray_inj.mp bytes

/-- No call that is accepted leaves what a call leaves that is not. -/
theorem save_ne_of_refused {value other : Json} (accepted : Accepts value)
    (refused : ¬ Accepts other) : (save value).1 ≠ (save other).1 := by
  obtain ⟨table, checks, short⟩ := accepts_iff.mp accepted
  have weightless := Json.weight_indented (SettingTable.not_overlong_named short)
  have written : (save value).1 = ofText ((Json.object table.named).indented 0) := by
    simp only [save, checks, SettingTable.written_chunks_of_short short]
  rw [written]
  rcases save_cases other with ⟨_, _, _, saved⟩ | ⟨_, more, _, _, isOpen, saved⟩ |
    ⟨_, _, saved⟩
  · exact absurd (congrArg Prod.snd saved) refused
  · rw [saved]
    intro same
    rw [ofText_injective same] at weightless
    have weighs := Json.weight_of_open isOpen
    omega
  · rw [saved]
    exact fun same => Json.indented_object_ne_empty _ _ (ofText_injective same)

/-- **What a call leaves that is not accepted loads as the defaults.** -/
theorem load_of_refused {value : Json} (refused : ¬ Accepts value) :
    (save value).1.load = .ok Settings.defaults := by
  obtain ⟨text, left, malformed, _⟩ := leaves_of_refused refused
  have read := read?_ofText text
  rw [malformed] at read
  rw [left, load_of_read read]
  rfl

theorem expected_of_accepts {value : Json} (accepted : Accepts value) (store : SettingStore) :
    expected store value = (save value).1 := by
  rw [expected, accepted]

theorem expected_of_refused {value : Json} (refused : ¬ Accepts value) (store : SettingStore) :
    expected store value = store := by
  rw [expected]
  split
  next accepted => exact absurd accepted refused
  next => rfl

/-! ## Runs -/

/-- A file that no accepted call leaves is expected only if it is the first one and no call is
accepted. -/
theorem lastAccepted_eq_iff {left : SettingStore}
    (other : ∀ value, Accepts value → (save value).1 ≠ left) (values : List Json) :
    ∀ store : SettingStore, lastAccepted store values = left ↔
      (∀ value ∈ values, ¬ Accepts value) ∧ store = left := by
  induction values with
  | nil => exact fun store => ⟨fun same => ⟨nofun, same⟩, fun both => both.2⟩
  | cons value values ih =>
      intro store
      rw [lastAccepted, List.foldl_cons, ← lastAccepted, ih, List.forall_mem_cons]
      by_cases accepted : Accepts value
      · rw [expected_of_accepts accepted]
        exact ⟨fun both => absurd both.2 (other value accepted),
          fun both => absurd accepted both.1.1⟩
      · rw [expected_of_refused accepted]
        exact ⟨fun both => ⟨⟨accepted, both.1⟩, both.2⟩, fun both => ⟨both.1.2, both.2⟩⟩

/-- Only the last call of a run has an influence on the file. -/
theorem saveAll_concat (store : SettingStore) (values : List Json) (last : Json) :
    saveAll store (values ++ [last]) = (save last).1 := by
  rw [saveAll, List.foldl_append, List.foldl_cons, List.foldl_nil]

theorem lastAccepted_concat (store : SettingStore) (values : List Json) (last : Json) :
    lastAccepted store (values ++ [last]) = expected (lastAccepted store values) last := by
  rw [lastAccepted, List.foldl_append, List.foldl_cons, List.foldl_nil, ← lastAccepted]

/-- A run that is empty or ends with an accepted call leaves what is expected, and every other run
leaves what its last call leaves. -/
theorem saveAll_cases (store : SettingStore) (values : List Json) :
    ((∀ last, values.getLast? = some last → Accepts last) ∧
        saveAll store values = lastAccepted store values) ∨
      ∃ last, values.getLast? = some last ∧ ¬ Accepts last ∧
        saveAll store values = (save last).1 := by
  rcases List.eq_nil_or_concat values with rfl | ⟨values, last, rfl⟩
  · exact .inl ⟨nofun, rfl⟩
  · rw [List.concat_eq_append, List.getLast?_concat, saveAll_concat, lastAccepted_concat]
    by_cases accepted : Accepts last
    · refine .inl ⟨?_, (expected_of_accepts accepted _).symm⟩
      rintro _ ⟨⟩
      exact accepted
    · exact .inr ⟨last, rfl, accepted, rfl⟩

/-- **The file holds what the last accepted call has written** exactly after the runs that are
empty or end with an accepted call, and after those without an accepted call on a file that was
before as the last call leaves it. **What is loaded from it** is right after the former runs, and
after every other run exactly if it should have been the defaults. **A call that is not accepted**
leaves a text that is no JSON: an empty one if the check refuses the settings, and otherwise the
start of the text that could not be written to its end. -/
theorem saveAll_eq_lastAccepted_iff (store : SettingStore) (values : List Json) :
    (saveAll store values = lastAccepted store values ↔
      (∀ last, values.getLast? = some last → Accepts last) ∨
        ((∀ value ∈ values, ¬ Accepts value) ∧
          ∃ last, values.getLast? = some last ∧ store = (save last).1)) ∧
    ((saveAll store values).load = (lastAccepted store values).load ↔
      (∀ last, values.getLast? = some last → Accepts last) ∨
        (lastAccepted store values).load = .ok Settings.defaults) ∧
    ∀ last, values.getLast? = some last → ¬ Accepts last →
      ∃ text, saveAll store values = ofText text ∧ Json.read text = .error .malformed ∧
        (text = "" ↔ ∃ fault, checked last = .error fault) := by
  rcases saveAll_cases store values with ⟨accepted, same⟩ | ⟨last, isLast, refused, left⟩
  · rw [same]
    exact ⟨⟨fun _ => .inl accepted, fun _ => rfl⟩, ⟨fun _ => .inl accepted, fun _ => rfl⟩,
      fun last isLast refused => absurd (accepted last isLast) refused⟩
  · have notAll : ¬ ∀ last, values.getLast? = some last → Accepts last :=
      fun all => refused (all last isLast)
    have onLast {holds : Json → Prop} :
        (∃ other, values.getLast? = some other ∧ holds other) ↔ holds last := by
      rw [isLast]
      exact ⟨fun ⟨_, same, found⟩ => Option.some.inj same ▸ found, fun found => ⟨last, rfl, found⟩⟩
    rw [left, load_of_refused refused, or_iff_right notAll, or_iff_right notAll, onLast,
      ← lastAccepted_eq_iff fun value accepted => save_ne_of_refused accepted refused]
    refine ⟨eq_comm, eq_comm, fun other isOther _ => ?_⟩
    rw [isLast] at isOther
    cases isOther
    exact leaves_of_refused refused

/-- Settings with a greatest depth. -/
def depthSetting (depth : Int) : Json :=
  .object [("max_depth", .number (.integer depth))]

set_option maxRecDepth 10000 in
/-- **A call that is refused may lose what was saved before.** After a depth that is accepted and
one that is refused, the file is not what the accepted call has written, and the default is loaded
in place of the depth. -/
theorem saveAll_loses_settings :
    Accepts (depthSetting 12) ∧ ¬ Accepts (depthSetting 0) ∧
      saveAll .initial [depthSetting 12, depthSetting 0] ≠
        lastAccepted .initial [depthSetting 12, depthSetting 0] ∧
      (lastAccepted .initial [depthSetting 12, depthSetting 0]).loadValue "max_depth" .null =
        .ok (.number (.integer 12)) ∧
      (saveAll .initial [depthSetting 12, depthSetting 0]).loadValue "max_depth" .null =
        .ok (.number (.integer 200)) := by
  have accepted : Accepts (depthSetting 12) := rfl
  have refused : ¬ Accepts (depthSetting 0) := nofun
  refine ⟨accepted, refused, fun same => ?_, rfl, rfl⟩
  have left : saveAll .initial [depthSetting 12, depthSetting 0] = (save (depthSetting 0)).1 := rfl
  rw [left, eq_comm, lastAccepted_eq_iff fun _ accepted => save_ne_of_refused accepted refused]
    at same
  exact same.1 _ List.mem_cons_self accepted

end SettingStore

end InfixFormula
