import InfixFormula.Number.Builtin
import InfixFormula.Settings.Table

/-!
# Settings

Three settings govern the building of formulas: whether the builder reports its steps, how deep
a formula may nest, and the unit of angles. They are read from a table (`Settings.ofTable`) that
starts from the defaults. The depth has to be a positive integer within a limit and the unit one
of the known names; everything else in the table is kept and ignored.

A value that is refused is shown in the message of the fault. Where it cannot be shown, because of
an integer with too many digits, there is no fault with a message but only this obstacle
(`SettingRefusal`).
-/

set_option autoImplicit false

namespace InfixFormula

/-- How deep calls may be nested at run time. This is the value in force where no other one is
chosen; that it can be changed is not modelled. -/
def callDepthLimit : Nat := 1000

/-- The greatest depth of nesting that may be asked for, which leaves a level of building four
calls. -/
def maxDepthLimit : Nat := callDepthLimit / 4

/-- What is wrong with a setting, with the value as messages show it. -/
inductive SettingFault where
  | depthNotPositive (shown : String)
  | depthAboveLimit (shown : String)
  | unknownAngleUnit (shown : String)

namespace SettingFault

/-- The names of the units of angle, quoted, between brackets. -/
def angleUnitNames : String :=
  "(" ++ String.intercalate ", " (AngleUnit.all.map fun unit => Text.quoted unit.name) ++ ")"

/-- The message of a fault. -/
def message : SettingFault → String
  | depthNotPositive shown =>
      "max_depth must be a positive integer, got " ++ shown
  | depthAboveLimit shown =>
      "max_depth must be at most " ++ integerText maxDepthLimit ++ ", got " ++ shown
  | unknownAngleUnit shown =>
      "angle_unit must be one of " ++ angleUnitNames ++ ", got " ++ shown

end SettingFault

/-- Why settings are refused. -/
inductive SettingRefusal where
  | fault (cause : SettingFault)
  /-- The value that cannot be used cannot be shown either. -/
  | overlongInteger

/-- Refuses a value with a fault that shows it. -/
def SettingRefusal.refuse {α : Type} (cause : String → SettingFault) (value : Json) :
    Except SettingRefusal α :=
  match value.literal with
  | .ok shown => .error (.fault (cause shown))
  | .error _ => .error .overlongInteger

/-- Settings that a builder can use. -/
structure Settings where
  debug : Bool
  maxDepth : Nat
  angleUnit : AngleUnit
  maxDepth_pos : 0 < maxDepth
  maxDepth_le : maxDepth ≤ maxDepthLimit

namespace Settings

open SettingRefusal

/-- The table of the default settings. -/
def defaults : SettingTable :=
  [(.text "debug", .bool false),
    (.text "max_depth", .number (.integer 200)),
    (.text "angle_unit", .text AngleUnit.radians.name)]

/-- The table of the defaults under a JSON value; a value that does not count as set changes
nothing. -/
def tableOf (value : Json) : Except OverlayFault SettingTable :=
  if value.isTruthy then defaults.overlay value else .ok defaults

/-- A depth of nesting: a positive integer within the limit. -/
def depthOf : Json → Except SettingRefusal { depth : Nat // 0 < depth ∧ depth ≤ maxDepthLimit }
  | .number (.integer value) =>
      if positive : 0 < value then
        if within : value ≤ maxDepthLimit then .ok ⟨value.toNat, by omega⟩
        else refuse .depthAboveLimit (.number (.integer value))
      else refuse .depthNotPositive (.number (.integer value))
  | value => refuse .depthNotPositive value

/-- A unit of angle by its name. -/
def angleUnitOf (value : Json) : Except SettingRefusal AngleUnit :=
  match value with
  | .text name => match AngleUnit.all.find? fun unit => name == unit.name with
      | some unit => .ok unit
      | none => refuse .unknownAngleUnit value
  | _ => refuse .unknownAngleUnit value

/-- The settings of a table: the depth is looked at before the unit. -/
def ofTable (table : SettingTable) : Except SettingRefusal Settings := do
  let depth ← depthOf ((table.get? "max_depth").getD .null)
  let unit ← angleUnitOf ((table.get? "angle_unit").getD .null)
  let debug := ((table.get? "debug").getD .null).isTruthy
  pure ⟨debug, depth.val, unit, depth.property.1, depth.property.2⟩

end Settings

end InfixFormula
