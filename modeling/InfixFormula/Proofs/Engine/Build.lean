import InfixFormula.Engine.Basic
import InfixFormula.Proofs.Formula.Faults
import InfixFormula.Proofs.Result
import InfixFormula.Proofs.Term.Validity

/-!
# Building as a whole

The engine validates a list of terms, looks at the settings, builds the formula and settles the
result, which prints notes on the way and may look into the settings file. With settings that are
accepted, none of this changes the result: it is what the validation and the levels of the
builder give (`Engine.build_result`). An internal fault would be settled differently, since its
note is printed only if the settings file can be read; there is none.
-/

set_option autoImplicit false

namespace InfixFormula

open InfixFormula.Bracket Validation

namespace Builder

/-- What the validation and the levels of the builder give for a list of terms. -/
def validated (builder : Builder) (terms : List Term) : Except Fault Formula :=
  validate builder.symbols terms >>= fun _ => builder.outcome (builder.maxDepth + 1) terms

theorem build_result (builder : Builder) (terms : List Term) :
    (builder.build terms).result = builder.outcome (builder.maxDepth + 1) terms := by
  have levels : ((builder.maxDepth : Int) + 1 - 0).toNat = builder.maxDepth + 1 := by omega
  rw [build, buildAt, levels, outcome]

/-- The faults of building: the list is refused by the validation, or it passes and is no single
operand, or it passes and the fault is about a part of it. -/
inductive BuildFault (builder : Builder) (terms : List Term) : Fault → Prop
  | refused {fault : Fault} : Refused builder.symbols terms fault → BuildFault builder terms fault
  | noOperand {cause : LeafFault} : validate builder.symbols terms = .ok () →
      NoOperand builder.symbols (unwrapped terms) cause → BuildFault builder terms (.leaf cause)
  | part {fault : Fault} : validate builder.symbols terms = .ok () →
      PartFault builder terms fault → BuildFault builder terms fault

section Resolved

variable {builder : Builder} (resolved : builder.symbols.Resolved) {terms : List Term}
include resolved

theorem validated_of_valid {terms : List Term} (valid : validate builder.symbols terms = .ok ()) :
    builder.validated terms = builder.outcome (builder.maxDepth + 1) terms ∧ Balanced terms := by
  refine ⟨?_, ((validate_eq_ok_iff resolved).mp valid).1⟩
  rw [validated, valid]
  rfl

/-- **Every fault of building is one of these.** -/
theorem buildFault_of_error {fault : Fault} (failed : builder.validated terms = .error fault) :
    BuildFault builder terms fault := by
  cases valid : validate builder.symbols terms with
  | error other =>
      rw [validated, valid] at failed
      cases failed
      exact .refused (refused_of_error valid)
  | ok =>
      obtain ⟨same, balanced⟩ := validated_of_valid resolved valid
      rw [same] at failed
      rcases explained_of_error resolved _ balanced fault failed with ⟨cause, rfl, found⟩ | faulty
      · exact .noOperand valid found
      · exact .part valid faulty

/-- **A list that is valid gives the fault of no single operand exactly if it is none.** -/
theorem validated_eq_leaf_iff {cause : LeafFault} :
    builder.validated terms = .error (.leaf cause) ↔
      validate builder.symbols terms = .ok () ∧
        NoOperand builder.symbols (unwrapped terms) cause := by
  constructor
  · intro failed
    cases buildFault_of_error resolved failed with
    | refused refused => cases refused
    | noOperand valid found => exact ⟨valid, found⟩
    | part _ faulty => exact absurd rfl (faulty.ne_leaf cause)
  · rintro ⟨valid, found⟩
    obtain ⟨same, balanced⟩ := validated_of_valid resolved valid
    rw [same]
    exact (outcome_eq_leaf_iff resolved balanced).mpr found

end Resolved

namespace BuildFault

variable {builder : Builder} {terms : List Term} {fault : Fault}

/-- No fault of building is internal. -/
theorem not_internal (faulty : BuildFault builder terms fault) :
    fault.kind.isA .internal = false := by
  cases faulty with
  | refused refused => cases refused <;> rfl
  | @noOperand cause _ _ => cases cause <;> rfl
  | part _ faulty => cases faulty <;> rfl

end BuildFault

end Builder

namespace Fault

/-- Only internal faults are noted when they are settled. -/
theorem internalNote?_eq_none {fault : Fault} (ordinary : fault.kind.isA .internal = false) :
    fault.internalNote? = none := by
  cases fault with
  | unknownFunction | bracketOutside | notBracket | unknownOperator => cases ordinary
  | _ => rfl

end Fault

/-- A result with failures has the failure of a fault exactly if it comes from that fault. -/
theorem Failure.mapError_eq_error_iff {α : Type} {result : Except Fault α} {fault : Fault} :
    result.mapError ofFault = .error (ofFault fault) ↔ result = .error fault := by
  cases result with
  | ok value => exact ⟨nofun, nofun⟩
  | error other => exact ⟨fun | rfl => rfl, fun | rfl => rfl⟩

namespace Engine

/-- Settling keeps a result without internal faults. -/
theorem settle_result {α : Type} (store : SettingStore) (debug : Bool)
    {build : Logged BuildNote Fault α}
    (ordinary : ∀ fault, build.result = .error fault → fault.kind.isA .internal = false) :
    (settle store debug build).result = build.result.mapError Failure.ofFault := by
  simp only [settle, Logged.bind_result]
  cases built : build.result with
  | ok value => rfl
  | error fault =>
      simp only [failWith, Fault.internalNote?_eq_none (ordinary fault built)]
      rfl

/-- An empty object stands for the default settings. -/
theorem settings_empty (store : SettingStore) :
    Engine.settings store (.object []) = .ok ⟨false, 200, .radians, by decide, by decide⟩ :=
  rfl

/-- Settings that are not accepted build no formula. -/
theorem accepted_of_build {store : SettingStore} {symbols : Symbols} {given : Json}
    {terms : List Term} {formula : Formula}
    (built : (build store symbols given terms).result = .ok formula) :
    ∃ settings, Engine.settings store given = .ok settings := by
  cases found : Engine.settings store given with
  | ok settings => exact ⟨settings, rfl⟩
  | error failure =>
      simp only [build, create, Logged.bind_result, Logged.liftM_result, found] at built
      cases valid : (settleResult store (validate symbols terms)).result with
      | ok =>
          rw [valid] at built
          cases built
      | error failure =>
          rw [valid] at built
          cases built

section Accepted

variable {store : SettingStore} {symbols : Symbols} {given : Json} {settings : Settings}
  (resolved : symbols.Resolved) (accepted : Engine.settings store given = .ok settings)
  (terms : List Term)
include resolved accepted

/-- **With settings that are accepted, the engine gives what the validation and the levels of the
builder give.** -/
theorem build_result :
    (build store symbols given terms).result =
      ((builder symbols settings).validated terms).mapError Failure.ofFault := by
  have ordinary (fault : Fault)
      (failed : (builder symbols settings).validated terms = .error fault) :
      fault.kind.isA .internal = false :=
    (Builder.buildFault_of_error resolved failed).not_internal
  simp only [build, create, settleResult, Logged.bind_result, Logged.liftM_result, accepted]
  cases valid : validate symbols terms with
  | error fault =>
      have failed : (builder symbols settings).validated terms = .error fault := by
        rw [Builder.validated, builder, valid]
        rfl
      rw [settle_result store false (by
        rintro _ ⟨⟩
        exact ordinary fault failed), failed]
      rfl
  | ok =>
      have passed : (builder symbols settings).validated terms =
          ((builder symbols settings).build terms).result := by
        rw [Builder.validated, Builder.build_result, builder, valid]
        rfl
      rw [passed] at ordinary ⊢
      rw [settle_result store false (by
        rintro _ ⟨⟩)]
      exact settle_result store settings.debug ordinary

theorem build_eq_ok_iff (formula : Formula) :
    (build store symbols given terms).result = .ok formula ↔
      (builder symbols settings).validated terms = .ok formula := by
  rw [build_result resolved accepted, mapError_eq_ok_iff]

theorem build_eq_error_iff (fault : Fault) :
    (build store symbols given terms).result = .error (.ofFault fault) ↔
      (builder symbols settings).validated terms = .error fault := by
  rw [build_result resolved accepted, Failure.mapError_eq_error_iff]

end Accepted

end Engine

end InfixFormula
