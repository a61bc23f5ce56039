import InfixFormula.Fault.Basic
import InfixFormula.Proofs.Json.Indented
import InfixFormula.Proofs.Settings.Loading

/-!
# Settings that can be used

Settings are read from a table by its entries: the depth is an integer from one to the limit, the
unit is the name of a unit, and notes are asked for by any value that counts as set
(`ofTable_eq_ok_iff`). So a table can be used exactly if it has such a depth and such a unit
(`SettingTable.Usable`). Any other table is refused for one value, the depth or the unit
(`SettingTable.RefusedFor`), and the fault shows this value. If an integer in the value has too many
digits to be shown, there is no fault of the configuration but only this obstacle
(`ofTable_of_refusedFor`).

One would expect that a table also has to say by a truth value whether notes are asked for
(`SettingTable.HasTruthValue`), as this entry is meant to be one and every other entry that is
meant to be something is checked. It is not checked, however: a table with anything else in its
place is accepted as it is (`checked_object`).
-/

set_option autoImplicit false

namespace InfixFormula

namespace SettingTable

/-- The depth of a table is an integer from one to the limit, and its unit the name of a unit. -/
structure Usable (table : SettingTable) : Prop where
  depth : ∃ depth : Int, table.get? "max_depth" = some (.number (.integer depth)) ∧
    1 ≤ depth ∧ depth ≤ maxDepthLimit
  unit : table.get? "angle_unit" = some (.text "radians") ∨
    table.get? "angle_unit" = some (.text "degrees")

/-- The value for which a table is refused: the depth, if it cannot be used, and else the unit. A
missing entry counts as null. -/
inductive RefusedFor (table : SettingTable) : Json → Prop
  | depth {value : Json} : (table.get? "max_depth").getD .null = value →
      (∀ depth : Int, 1 ≤ depth → depth ≤ maxDepthLimit → value ≠ .number (.integer depth)) →
      RefusedFor table value
  | unit {depth : Int} {value : Json} :
      table.get? "max_depth" = some (.number (.integer depth)) → 1 ≤ depth →
      depth ≤ maxDepthLimit → (table.get? "angle_unit").getD .null = value →
      value ≠ .text "radians" → value ≠ .text "degrees" → RefusedFor table value

/-- A table is refused for one value. -/
theorem RefusedFor.unique {table : SettingTable} {value other : Json}
    (refused : table.RefusedFor value) (refusedOther : table.RefusedFor other) : other = value := by
  have passes {depth : Int} {value : Json}
      (isDepth : table.get? "max_depth" = some (.number (.integer depth)))
      (isValue : (table.get? "max_depth").getD .null = value) :
      value = .number (.integer depth) := by
    rw [← isValue, isDepth, Option.getD_some]
  cases refused with
  | depth isValue unusable => cases refusedOther with
      | depth isOther _ => exact isOther.symm.trans isValue
      | unit isDepth positive within _ _ _ =>
          exact absurd (passes isDepth isValue) (unusable _ positive within)
  | unit isDepth positive within isValue _ _ => cases refusedOther with
      | depth isOther unusable => exact absurd (passes isDepth isOther) (unusable _ positive within)
      | unit _ _ _ isOther _ _ => exact isOther.symm.trans isValue

/-- What holds of the value for which a table is refused holds of any such value. -/
theorem RefusedFor.exists_iff {table : SettingTable} {value : Json}
    (refused : table.RefusedFor value) {holds : Json → Prop} :
    (∃ other, table.RefusedFor other ∧ holds other) ↔ holds value :=
  ⟨fun ⟨_, refusedOther, found⟩ => refused.unique refusedOther ▸ found,
    fun found => ⟨value, refused, found⟩⟩

/-- The table says by a truth value whether notes are asked for. -/
def HasTruthValue (table : SettingTable) : Prop :=
  ∃ value, table.get? "debug" = some (.bool value)

end SettingTable

namespace Settings

/-! ## Reading settings from a table -/

open SettingRefusal

/-- A value is refused with a fault that shows it, or with none if it cannot be shown. -/
theorem refuse_cases (α : Type) (cause : String → SettingFault) (value : Json) :
    (¬ value.Overlong ∧ ∃ shown, (refuse cause value : Except _ α) =
      .error (.fault (cause shown))) ∨
    (value.Overlong ∧ (refuse cause value : Except _ α) = .error .overlongInteger) := by
  by_cases overlong : value.Overlong
  · rw [refuse, Json.literal_of_overlong overlong]
    exact .inr ⟨overlong, rfl⟩
  · obtain ⟨shown, isShown⟩ := (Json.exists_literal_iff value).mpr overlong
    rw [refuse, isShown]
    exact .inl ⟨overlong, shown, rfl⟩

theorem refuse_ne_ok {α : Type} {cause : String → SettingFault} {value : Json} {found : α} :
    refuse cause value ≠ .ok found := by
  rcases refuse_cases α cause value with ⟨_, shown, refused⟩ | ⟨_, refused⟩ <;>
    rw [refused] <;> exact nofun

/-- Behind a value that is refused nothing else matters. -/
theorem refuse_bind {α β : Type} (cause : String → SettingFault) (value : Json)
    (next : α → Except SettingRefusal β) :
    (refuse cause value >>= next) = refuse cause value := by
  rw [refuse, refuse]
  cases value.literal <;> rfl

theorem depthOf_eq_ok_iff {value : Json}
    {depth : { depth : Nat // 0 < depth ∧ depth ≤ maxDepthLimit }} :
    depthOf value = .ok depth ↔ value = .number (.integer depth.val) := by
  constructor
  · fun_cases depthOf value with
    | case1 number positive within =>
        rintro ⟨⟩
        rw [Int.toNat_of_nonneg (Int.le_of_lt positive)]
    | case2 | case3 | case4 => exact fun passed => absurd passed refuse_ne_ok
  · rintro rfl
    obtain ⟨depth, positive, within⟩ := depth
    rw [depthOf, dif_pos (Int.natCast_pos.mpr positive), dif_pos (Int.ofNat_le.mpr within)]
    rfl

/-- A depth that is no integer from one to the limit is refused. -/
theorem depthOf_of_unusable {value : Json} (unusable : ∀ depth : Int, 1 ≤ depth →
    depth ≤ maxDepthLimit → value ≠ .number (.integer depth)) :
    ∃ cause, depthOf value = refuse cause value := by
  fun_cases depthOf value with
  | case1 number positive within => exact absurd rfl (unusable number positive within)
  | case2 | case3 | case4 => exact ⟨_, rfl⟩

theorem angleUnitOf_eq_ok_iff {value : Json} {unit : AngleUnit} :
    angleUnitOf value = .ok unit ↔ value = .text unit.name := by
  constructor
  · fun_cases angleUnitOf value with
    | case1 name other found =>
        rintro ⟨⟩
        have named : name = unit.name := by simpa using List.find?_some found
        rw [named]
    | case2 | case3 => exact fun passed => absurd passed refuse_ne_ok
  · rintro rfl
    cases unit <;> rfl

/-- A unit without a known name is refused. -/
theorem angleUnitOf_of_unknown {value : Json} (notRadians : value ≠ .text "radians")
    (notDegrees : value ≠ .text "degrees") :
    ∃ cause, angleUnitOf value = refuse cause value := by
  fun_cases angleUnitOf value with
  | case1 name unit found =>
      have named := List.find?_some found
      cases unit <;> simp_all [AngleUnit.name]
  | case2 | case3 => exact ⟨_, rfl⟩

theorem getD_null_eq_iff {entry : Option Json} {value : Json} (given : value ≠ .null) :
    entry.getD .null = value ↔ entry = some value := by
  cases entry with
  | none => exact ⟨fun same => absurd same.symm given, nofun⟩
  | some other => exact Option.some_inj.symm

/-- **Settings are read from the entries of a table.** -/
theorem ofTable_eq_ok_iff {table : SettingTable} {settings : Settings} :
    ofTable table = .ok settings ↔
      table.get? "max_depth" = some (.number (.integer settings.maxDepth)) ∧
      table.get? "angle_unit" = some (.text settings.angleUnit.name) ∧
      settings.debug = ((table.get? "debug").getD .null).isTruthy := by
  simp only [ofTable, bind_eq_ok_iff, depthOf_eq_ok_iff, angleUnitOf_eq_ok_iff]
  rw [← getD_null_eq_iff (nofun : Json.number _ ≠ .null),
    ← getD_null_eq_iff (nofun : Json.text _ ≠ .null)]
  constructor
  · rintro ⟨depth, isDepth, unit, isUnit, ⟨⟩⟩
    exact ⟨isDepth, isUnit, rfl⟩
  · rintro ⟨isDepth, isUnit, isDebug⟩
    refine ⟨⟨settings.maxDepth, settings.maxDepth_pos, settings.maxDepth_le⟩, isDepth,
      settings.angleUnit, isUnit, ?_⟩
    rw [← isDebug]
    rfl

/-- **A table can be used** exactly if settings can be read from it. -/
theorem exists_ofTable_iff {table : SettingTable} :
    (∃ settings, ofTable table = .ok settings) ↔ table.Usable := by
  simp only [ofTable_eq_ok_iff]
  constructor
  · rintro ⟨settings, isDepth, isUnit, _⟩
    refine ⟨⟨settings.maxDepth, isDepth, Int.natCast_pos.mpr settings.maxDepth_pos,
      Int.ofNat_le.mpr settings.maxDepth_le⟩, ?_⟩
    cases unit : settings.angleUnit with
    | radians =>
        rw [unit] at isUnit
        exact .inl isUnit
    | degrees =>
        rw [unit] at isUnit
        exact .inr isUnit
  · rintro ⟨⟨depth, isDepth, positive, within⟩, isUnit⟩
    obtain ⟨depth, rfl⟩ := Int.eq_ofNat_of_zero_le (Int.le_of_lt positive)
    have read (unit : AngleUnit) (isUnit : table.get? "angle_unit" = some (.text unit.name)) :
        ∃ settings : Settings,
          table.get? "max_depth" = some (.number (.integer settings.maxDepth)) ∧
          table.get? "angle_unit" = some (.text settings.angleUnit.name) ∧
          settings.debug = ((table.get? "debug").getD .null).isTruthy :=
      ⟨⟨_, depth, unit, Int.natCast_pos.mp positive, Int.ofNat_le.mp within⟩, isDepth, isUnit, rfl⟩
    rcases isUnit with radians | degrees
    · exact read .radians radians
    · exact read .degrees degrees

/-- **A table cannot be used** exactly if it is refused for some value. -/
theorem not_usable_iff {table : SettingTable} :
    ¬ table.Usable ↔ ∃ value, table.RefusedFor value := by
  constructor
  · intro unusable
    by_cases depth : ∃ depth : Int, table.get? "max_depth" = some (.number (.integer depth)) ∧
        1 ≤ depth ∧ depth ≤ maxDepthLimit
    · obtain ⟨depth, isDepth, positive, within⟩ := depth
      have unknown (name : Utf16) (isUnit : table.get? "angle_unit" = some (.text name) →
          table.Usable) : (table.get? "angle_unit").getD .null ≠ .text name :=
        fun isName => unusable (isUnit ((getD_null_eq_iff Json.noConfusion).mp isName))
      exact ⟨_, .unit isDepth positive within rfl
        (unknown _ fun isName => ⟨⟨depth, isDepth, positive, within⟩, .inl isName⟩)
        (unknown _ fun isName => ⟨⟨depth, isDepth, positive, within⟩, .inr isName⟩)⟩
    · refine ⟨_, .depth rfl fun number positive within isNumber => depth ⟨number, ?_⟩⟩
      exact ⟨(getD_null_eq_iff Json.noConfusion).mp isNumber, positive, within⟩
  · rintro ⟨value, refused⟩ ⟨⟨depth, isDepth, positive, within⟩, isUnit⟩
    cases refused with
    | depth isValue unusable =>
        rw [isDepth] at isValue
        exact unusable depth positive within isValue.symm
    | unit _ _ _ isValue notRadians notDegrees =>
        rcases isUnit with isName | isName
        · rw [isName] at isValue
          exact notRadians isValue.symm
        · rw [isName] at isValue
          exact notDegrees isValue.symm

/-- Reading a table that is refused for a value comes to refuse this value. -/
theorem exists_ofTable_eq_refuse {table : SettingTable} {value : Json}
    (refused : table.RefusedFor value) : ∃ cause, ofTable table = refuse cause value := by
  cases refused with
  | depth isValue unusable =>
      obtain ⟨cause, found⟩ := depthOf_of_unusable unusable
      exact ⟨cause, by rw [ofTable, isValue, found, refuse_bind]⟩
  | unit isDepth positive within isValue notRadians notDegrees =>
      obtain ⟨cause, found⟩ := angleUnitOf_of_unknown notRadians notDegrees
      obtain ⟨depth, rfl⟩ := Int.eq_ofNat_of_zero_le (Int.le_of_lt positive)
      have passed : depthOf (.number (.integer depth)) = .ok
          ⟨depth, Int.natCast_pos.mp positive, Int.ofNat_le.mp within⟩ :=
        depthOf_eq_ok_iff.mpr rfl
      refine ⟨cause, ?_⟩
      rw [ofTable, isDepth, Option.getD_some, passed, isValue, found]
      exact refuse_bind cause value _

/-- **A table is refused with a fault, unless the fault cannot show the value.** -/
theorem ofTable_of_refusedFor {table : SettingTable} {value : Json}
    (refused : table.RefusedFor value) :
    (¬ value.Overlong ∧ ∃ cause, ofTable table = .error (.fault cause)) ∨
      (value.Overlong ∧ ofTable table = .error .overlongInteger) := by
  obtain ⟨cause, read⟩ := exists_ofTable_eq_refuse refused
  rw [read]
  exact (refuse_cases Settings cause value).imp_left
    fun ⟨short, shown, isShown⟩ => ⟨short, cause shown, isShown⟩

/-- The default settings under the fields of an object. -/
def overlaid (fields : List (Utf16 × Json)) : SettingTable :=
  defaults.putAll (fields.map fun field => (.text field.1, field.2))

/-- An object is laid over the defaults also when it is empty and does not count as set. -/
theorem tableOf_object (fields : List (Utf16 × Json)) :
    tableOf (.object fields) = .ok (overlaid fields) := by
  rw [tableOf]
  split
  next => exact SettingTable.overlay_eq_ok_iff.mpr ⟨_, rfl, rfl⟩
  next empty =>
    have none : fields = [] := by simpa [Json.isTruthy] using empty
    rw [none]
    rfl

end Settings

namespace SettingStore

/-! ## Checking settings -/

theorem checked_object_eq (fields : List (Utf16 × Json)) :
    checked (.object fields) =
      ((Settings.ofTable (Settings.overlaid fields)).mapError .ofRefusal).map
        fun _ => Settings.overlaid fields := by
  rw [checked, Settings.tableOf_object]
  show ((Settings.ofTable (Settings.overlaid fields)).mapError _ >>= _) = _
  cases Settings.ofTable (Settings.overlaid fields) <;> rfl

theorem checked_of_usable {fields : List (Utf16 × Json)}
    (usable : (Settings.overlaid fields).Usable) :
    checked (.object fields) = .ok (Settings.overlaid fields) := by
  obtain ⟨settings, read⟩ := Settings.exists_ofTable_iff.mpr usable
  rw [checked_object_eq, read]
  rfl

/-- The fields of an object that give a table for which a value is refused are refused with a fault,
unless the fault cannot show the value. -/
theorem checked_of_refusedFor {fields : List (Utf16 × Json)} {value : Json}
    (refused : (Settings.overlaid fields).RefusedFor value) :
    (¬ value.Overlong ∧ ∃ cause, checked (.object fields) = .error (.setting cause)) ∨
      (value.Overlong ∧ checked (.object fields) = .error .overlongInteger) := by
  rw [checked_object_eq]
  rcases Settings.ofTable_of_refusedFor refused with ⟨short, cause, read⟩ | ⟨overlong, read⟩
  · rw [read]
    exact .inl ⟨short, cause, rfl⟩
  · rw [read]
    exact .inr ⟨overlong, rfl⟩

/-- The check ends with a fault of the configuration. -/
def IsConfigurationFault (result : Except SaveFault SettingTable) : Prop :=
  ∃ cause, result = .error (.setting cause) ∧
    (Fault.setting cause).kind = .configuration ∧ (Fault.setting cause).code = "5000"

/-- **Which settings are accepted.** The fields of an object are accepted, and give the defaults
under them, exactly if the depth and the unit in there can be used. In every other case they are
refused for a value: with a fault of the configuration, unless an integer in this value has too many
digits to be shown.

That a truth value says whether notes are asked for is not checked. So the expectation that only
such objects are accepted holds exactly for the objects where it is so, and for those that are
refused anyway. With the expectation that all others end with a fault of the configuration, it holds
for the objects that can be used and have a truth value there, and for those that are refused for a
value that can be shown. -/
theorem checked_object (fields : List (Utf16 × Json)) :
    (checked (.object fields) = .ok (Settings.overlaid fields) ↔
      (Settings.overlaid fields).Usable) ∧
    (IsConfigurationFault (checked (.object fields)) ↔
      ∃ value, (Settings.overlaid fields).RefusedFor value ∧ ¬ value.Overlong) ∧
    (checked (.object fields) = .error .overlongInteger ↔
      ∃ value, (Settings.overlaid fields).RefusedFor value ∧ value.Overlong) ∧
    (¬ (Settings.overlaid fields).Usable ↔
      ∃ value, (Settings.overlaid fields).RefusedFor value) ∧
    ((checked (.object fields) = .ok (Settings.overlaid fields) ↔
        (Settings.overlaid fields).HasTruthValue ∧ (Settings.overlaid fields).Usable) ↔
      (Settings.overlaid fields).HasTruthValue ∨ ¬ (Settings.overlaid fields).Usable) ∧
    ((checked (.object fields) = .ok (Settings.overlaid fields) ↔
        (Settings.overlaid fields).HasTruthValue ∧ (Settings.overlaid fields).Usable) ∧
      (¬ ((Settings.overlaid fields).HasTruthValue ∧ (Settings.overlaid fields).Usable) →
        IsConfigurationFault (checked (.object fields))) ↔
      ((Settings.overlaid fields).HasTruthValue ∧ (Settings.overlaid fields).Usable) ∨
        ∃ value, (Settings.overlaid fields).RefusedFor value ∧ ¬ value.Overlong) := by
  by_cases usable : (Settings.overlaid fields).Usable
  · have none (holds : Json → Prop) :
        ¬ ∃ value, (Settings.overlaid fields).RefusedFor value ∧ holds value :=
      fun ⟨value, refused, _⟩ => Settings.not_usable_iff.mpr ⟨value, refused⟩ usable
    have noFault : ¬ IsConfigurationFault
        (.ok (Settings.overlaid fields) : Except SaveFault SettingTable) := by
      rintro ⟨_, ⟨⟩, _⟩
    rw [checked_of_usable usable]
    refine ⟨iff_of_true rfl usable, iff_of_false noFault (none _), iff_of_false nofun (none _),
      Settings.not_usable_iff, ?_, ?_⟩
    · simp only [usable, and_true, not_true, or_false, true_iff]
    · simp only [usable, noFault, none, and_true, true_iff, or_false, imp_false,
        Classical.not_not, and_self]
  · obtain ⟨value, refused⟩ := Settings.not_usable_iff.mp usable
    simp only [refused.exists_iff]
    rcases checked_of_refusedFor refused with ⟨short, cause, failed⟩ | ⟨overlong, failed⟩
    · have isFault : IsConfigurationFault (.error (.setting cause)) := ⟨cause, rfl, rfl, rfl⟩
      rw [failed]
      refine ⟨iff_of_false nofun usable, iff_of_true isFault short, iff_of_false nofun short,
        iff_of_true usable ⟨value, refused⟩, ?_, ?_⟩
      · simp only [usable, and_false, not_false_eq_true, or_true, reduceCtorEq]
      · simp only [usable, isFault, short, and_false, false_or, not_false_eq_true, implies_true,
          reduceCtorEq, and_self]
    · have noFault : ¬ IsConfigurationFault (.error .overlongInteger) := by
        rintro ⟨_, ⟨⟩, _⟩
      rw [failed]
      refine ⟨iff_of_false nofun usable, iff_of_false noFault (fun short => short overlong),
        iff_of_true rfl overlong, iff_of_true usable ⟨value, refused⟩, ?_, ?_⟩
      · simp only [usable, and_false, not_false_eq_true, or_true, reduceCtorEq]
      · simp only [usable, noFault, overlong, and_false, false_or, not_true, not_false_eq_true,
          imp_false]

/-- **A text is accepted where a truth value is meant.** -/
theorem checked_debug_text :
    let fields : List (Utf16 × Json) := [("debug", .text "yes")]
    checked (.object fields) = .ok (Settings.overlaid fields) ∧
      (Settings.overlaid fields).get? "debug" = some (.text "yes") ∧
      ¬ (checked (.object fields) = .ok (Settings.overlaid fields) ↔
        (Settings.overlaid fields).HasTruthValue ∧ (Settings.overlaid fields).Usable) := by
  intro fields
  have accepted : checked (.object fields) = .ok (Settings.overlaid fields) := rfl
  have text : (Settings.overlaid fields).get? "debug" = some (.text "yes") := rfl
  refine ⟨accepted, text, fun expected => ?_⟩
  obtain ⟨value, truth⟩ := (expected.mp accepted).1
  rw [text] at truth
  cases truth

end SettingStore

end InfixFormula
