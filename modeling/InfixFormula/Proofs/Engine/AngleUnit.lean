import InfixFormula.Proofs.Engine.Parsing
import InfixFormula.Proofs.Formula.AngleUnit

/-!
# Building under two units of angles

Two settings that differ in the unit of angles and in whether the builder reports its steps, build
the same formula up to the unit in its calls, or the same fault. A list that names no circular
function has none in its formula (`Derives.name_mem`), so the two formulas have the same value in
every environment (`build_under_units`).

The settings may be given, or come from two different settings files. What a file says about notes
has no influence on the fault, because no fault of building is internal.
-/

set_option autoImplicit false

namespace InfixFormula

/-- A list names the functions of its formula. -/
theorem Derives.name_mem {symbols : Symbols} {unit : AngleUnit} {operators terms : List Term}
    {formula : Formula} (derivation : Derives symbols unit operators terms formula) :
    ∀ function ∈ formula.functions, function.name ∈ terms := by
  induction derivation with
  | tighter _ ih => exact ih
  | chain _ _ left right =>
      intro function member
      rcases List.mem_append.mp member with inLeft | inRight
      · exact List.mem_append_left _ (left function inLeft)
      · exact List.mem_append_right _ (List.mem_cons_of_mem _ (right function inRight))
  | reference | number => exact nofun
  | brackets _ ih =>
      intro function member
      exact List.mem_cons_of_mem _ (List.mem_append_left _ (ih function member))
  | call _ _ ih =>
      intro function member
      rcases List.mem_cons.mp member with rfl | inner
      · exact List.mem_cons_self
      · exact List.mem_cons_of_mem _
          (List.mem_cons_of_mem _ (List.mem_append_left _ (ih function inner)))

namespace Builder

theorem validated_withUnit (builder : Builder) (unit : AngleUnit) (terms : List Term) :
    { builder with angleUnit := unit }.validated terms =
      (builder.validated terms).map (Formula.withUnit unit) := by
  rw [validated, validated, ← build_result, ← build_result, build_withUnit, Logged.map_result]
  cases Validation.validate builder.symbols terms <;> rfl

end Builder

namespace Engine

section Accepted

variable {store otherStore : SettingStore} {symbols : Symbols} {given other : Json}
  {first second : Settings} (regular : symbols.Regular)
  (accepted : Engine.settings store given = .ok first)
  (acceptedOther : Engine.settings otherStore other = .ok second)
  (sameDepth : first.maxDepth = second.maxDepth) (terms : List Term)
include regular accepted acceptedOther sameDepth

theorem build_result_withUnit :
    (build otherStore symbols other terms).result =
      (build store symbols given terms).result.map (Formula.withUnit second.angleUnit) := by
  have sameBuilder : builder symbols second =
      { builder symbols first with angleUnit := second.angleUnit } := by
    rw [builder, builder, sameDepth]
  rw [build_result regular.toResolved accepted, build_result regular.toResolved acceptedOther,
    sameBuilder, Builder.validated_withUnit]
  cases (builder symbols first).validated terms <;> rfl

/-- **Notes and units have no influence on building.** Under settings with the same greatest depth
a list of terms is built into formulas that differ in the unit of their calls only, and have the
same text and the same variables; or both give the same failure. If the unit is the same too, or if
the list names no circular function, then the formulas have the same value and are evaluated to the
same outcome in every environment. -/
theorem build_under_units :
    (∃ formula, (build store symbols given terms).result = .ok formula ∧
      (build otherStore symbols other terms).result =
        .ok (formula.withUnit second.angleUnit) ∧
      (formula.withUnit second.angleUnit).text = formula.text ∧
      (formula.withUnit second.angleUnit).variableNames = formula.variableNames ∧
      (first.angleUnit = second.angleUnit ∨
          (∀ function : Builtin, function.isCircular = true → function.name ∉ terms) →
        ∀ environment,
          (formula.withUnit second.angleUnit).value environment = formula.value environment ∧
          evaluate environment (formula.withUnit second.angleUnit) =
            evaluate environment formula)) ∨
    ∃ failure, (build store symbols given terms).result = .error failure ∧
      (build otherStore symbols other terms).result = .error failure := by
  have same := build_result_withUnit regular accepted acceptedOther sameDepth terms
  cases built : (build store symbols given terms).result with
  | error failure =>
      rw [built] at same
      exact .inr ⟨failure, rfl, same⟩
  | ok formula =>
      rw [built] at same
      refine .inl ⟨formula, rfl, same, formula.text_withUnit _, formula.variableNames_withUnit _,
        fun alike environment => ?_⟩
      have value : (formula.withUnit second.angleUnit).value environment =
          formula.value environment := by
        rcases alike with sameUnit | plain
        · -- With its own unit the builder gives the formula itself.
          have own := build_result_withUnit regular accepted accepted rfl terms
          rw [built, sameUnit] at own
          rw [← Except.ok.inj own]
        · have derivation := ((build_eq_ok_iff_derives regular accepted _ _).mp built).1
          refine Formula.value_withUnit _ (fun function called => ?_) environment
          exact Bool.eq_false_iff.mpr fun circular =>
            plain function circular (derivation.name_mem function called)
      refine ⟨value, ?_⟩
      rw [evaluate, evaluate, Formula.real, Formula.real, value]

end Accepted

/-- A root that is built with notes and in degrees has the value of the root that is built without
them and in radians. -/
theorem build_under_units_root :
    let terms := ["sqrt", "(", "x", ")"]
    let degrees := Json.object [("debug", .bool true), ("angle_unit", .text "degrees")]
    Engine.settings .initial (.object []) =
        .ok ⟨false, 200, .radians, by decide, by decide⟩ ∧
      Engine.settings .initial degrees = .ok ⟨true, 200, .degrees, by decide, by decide⟩ ∧
      (build .initial {} degrees terms).result = .ok (.call .sqrt .degrees (.reference "x")) ∧
      ∀ environment, evaluate environment (.call .sqrt .degrees (.reference "x")) =
        evaluate environment (.call .sqrt .radians (.reference "x")) := by
  intro terms degrees
  have accepted := settings_empty .initial
  have acceptedOther : Engine.settings .initial degrees =
      .ok ⟨true, 200, .degrees, by decide, by decide⟩ := rfl
  have x : Derives {} .radians ["+", "-", "*", "/", "^"] ["x"] (.reference "x") :=
    Derives.of_unit (.reference rfl) _
  have root : Derives {} .radians ["+", "-", "*", "/", "^"] terms
      (.call .sqrt .radians (.reference "x")) :=
    Derives.of_unit (@Derives.call _ _ .sqrt ["x"] _ rfl x) _
  have built := (build_eq_ok_iff_derives Symbols.regular_default accepted _ _).mpr
    ⟨root, by decide⟩
  have plain : ∀ function : Builtin, function.isCircular = true → function.name ∉ terms := by
    intro function circular
    cases function with
    | sin | cos | tan =>
        show _ ∉ ["sqrt", "(", "x", ")"]
        decide
    | _ => cases circular
  refine ⟨accepted, acceptedOther, ?_⟩
  rcases build_under_units Symbols.regular_default accepted acceptedOther rfl terms with
    ⟨formula, builtHere, builtThere, _, _, alike⟩ | ⟨failure, failed, _⟩
  · rw [built] at builtHere
    cases builtHere
    exact ⟨builtThere, fun environment => (alike (.inr plain) environment).2⟩
  · rw [built] at failed
    cases failed

end Engine

end InfixFormula
