import InfixFormula.Proofs.Engine.Vocabulary
import Mathlib.Data.List.Basic

/-!
# Building equations

An equation is built from its two sides, which it has if there is one equals sign and the depth of
brackets is zero in front of it (`Equation.ofTerms_sides`). Without the notes this is a sequence of
two checks and two formulas (`Equation.build_result`): both sides are validated, then both are
built, the left one first each time. Every fault on the way is a fault of one of the sides
(`Equation.sideFault_of_error`) and one that a caller is told to expect. So settling it changes
nothing, and with settings that are accepted the engine gives what the sides give
(`Engine.buildEquation_result`, and `Engine.buildEquation_sides` for a list with one equals sign).
-/

set_option autoImplicit false

namespace InfixFormula

open InfixFormula.Bracket Builder Validation

/-! ## Faults that a caller is told to expect -/

/-- No kind of fault is both expected and internal. -/
theorem FaultKind.not_internal_of_math {kind : FaultKind} (math : kind.isA .math = true) :
    kind.isA .internal = false := by
  cases kind with
  | internal => cases math
  | _ => rfl

/-- Settling keeps a result whose faults are expected. -/
theorem Engine.settle_of_math {α : Type} (store : SettingStore) (debug : Bool)
    {build : Logged BuildNote Fault α}
    (math : ∀ fault, build.result = .error fault → fault.kind.isA .math = true) :
    (settle store debug build).result = build.result.mapError Failure.ofFault :=
  settle_result store debug fun fault failed => FaultKind.not_internal_of_math (math fault failed)

/-- A fault of the validation is expected. -/
theorem Validation.math_of_error {symbols : Symbols} {terms : List Term} {fault : Fault}
    (failed : validate symbols terms = .error fault) : fault.kind.isA .math = true :=
  (Engine.Reported.of_refused (refused_of_error failed)).math

namespace Equation

/-! ## Finding the sides -/

section Sides

variable {left right : List Term}

theorem ofTerms_of_count {terms : List Term} (several : terms.count Term.equals ≠ 1) :
    ofTerms terms = .error (.equalsCount (terms.count Term.equals)) := by
  simp only [ofTerms]
  exact if_pos several

/-- The equals sign between the sides is the only one exactly if it is in neither of them. -/
theorem count_sides :
    (left ++ Term.equals :: right).count Term.equals = 1 ↔
      Term.equals ∉ left ∧ Term.equals ∉ right := by
  rw [List.count_append, List.count_cons_self, ← List.count_eq_zero, ← List.count_eq_zero]
  omega

/-- A list with one equals sign has its sides. -/
theorem exists_sides {terms : List Term} (single : terms.count Term.equals = 1) :
    ∃ left right, terms = left ++ Term.equals :: right ∧
      Term.equals ∉ left ∧ Term.equals ∉ right := by
  have member : Term.equals ∈ terms := List.count_pos_iff.mp (by rw [single]; exact Nat.one_pos)
  obtain ⟨left, right, rfl⟩ := List.append_of_mem member
  exact ⟨left, right, rfl, count_sides.mp single⟩

/-- A list with one equals sign has no sides but its own. -/
theorem exists_sides_iff {motive : List Term → List Term → Prop}
    (absentLeft : Term.equals ∉ left) (absentRight : Term.equals ∉ right) :
    (∃ before after, left ++ Term.equals :: right = before ++ Term.equals :: after ∧
      motive before after) ↔ motive left right := by
  constructor
  · rintro ⟨before, after, split, holds⟩
    obtain ⟨rfl, _, rfl⟩ := (List.append_cons_inj_of_notMem absentLeft absentRight).mp split
    exact holds
  · exact fun holds => ⟨left, right, rfl, holds⟩

/-- **An equation has its sides exactly if the depth in front of its only equals sign is zero.** -/
theorem ofTerms_sides (absentLeft : Term.equals ∉ left) (absentRight : Term.equals ∉ right) :
    ofTerms (left ++ Term.equals :: right) =
      if depth left = 0 then .ok ⟨left, right, left.length⟩ else .error .equalsInBrackets := by
  have single := count_sides.mpr ⟨absentLeft, absentRight⟩
  have place : (left ++ Term.equals :: right).idxOf Term.equals = left.length := by
    rw [List.idxOf_append_of_notMem absentLeft, List.idxOf_cons_self, Nat.add_zero]
  have nowhere : outside (· == Term.equals) (left ++ Term.equals :: right) = [] ↔
      ¬ depth left = 0 := by
    rw [outside_eq_nil_iff rfl, Outside,
      exists_sides_iff (motive := fun before _ => depth before = 0) absentLeft absentRight]
  simp only [ofTerms, single, ne_eq, not_true_eq_false, if_false, nowhere, ite_not, place,
    List.take_left, List.drop_length_add_append, List.drop_one, List.tail_cons]

end Sides

/-- A list without sides has a fault about its equals signs. -/
theorem kind_of_ofTerms {terms : List Term} {fault : Fault}
    (failed : ofTerms terms = .error fault) : fault.kind = .equation := by
  simp only [ofTerms] at failed
  split at failed
  next =>
    cases failed
    rfl
  next =>
    split at failed
    next =>
      cases failed
      rfl
    next => cases failed

theorem math_of_ofTerms {terms : List Term} {fault : Fault}
    (failed : ofTerms terms = .error fault) : fault.kind.isA .math = true := by
  rw [kind_of_ofTerms failed]
  rfl

/-! ## Building the sides -/

/-- A side of an equation, which comes out of the builder at the top. -/
def side (builder : Builder) (side : Side) (terms : List Term) : Except Fault Formula :=
  (builder.outcome (builder.maxDepth + 1) terms).mapError (Fault.around (.operand side .equation))

/-- **Both sides are validated before the left one is built.** -/
theorem build_result (builder : Builder) (equation : Equation) :
    (equation.build builder).result =
      (validate builder.symbols equation.left >>= fun _ =>
        validate builder.symbols equation.right >>= fun _ =>
        side builder .left equation.left >>= fun left =>
        side builder .right equation.right >>= fun right =>
        .ok (.binary .subtract left right)) := by
  simp only [build, Logged.bind_result, Logged.liftM_result, Logged.note_result, Builder.around,
    Logged.mapFault_result, Builder.build_result, side]
  rfl

/-- **An equation gives the difference of what its sides give.** -/
theorem build_eq_ok_iff {builder : Builder} {equation : Equation} {formula : Formula} :
    (equation.build builder).result = .ok formula ↔
      ∃ left right, builder.validated equation.left = .ok left ∧
        builder.validated equation.right = .ok right ∧
        formula = .binary .subtract left right := by
  simp only [build_result, side, validated, bind_eq_ok_iff, mapError_eq_ok_iff, Except.ok.injEq]
  constructor
  · rintro ⟨_, validLeft, _, validRight, left, builtLeft, right, builtRight, rfl⟩
    exact ⟨left, right, ⟨_, validLeft, builtLeft⟩, ⟨_, validRight, builtRight⟩, rfl⟩
  · rintro ⟨left, right, ⟨_, validLeft, builtLeft⟩, ⟨_, validRight, builtRight⟩, rfl⟩
    exact ⟨_, validLeft, _, validRight, left, builtLeft, right, builtRight, rfl⟩

/-- The faults of a side: it is refused by the validation, or it is no single operand, or the fault
is about a part of it. -/
inductive SideFault (builder : Builder) (side : Side) (terms : List Term) : Fault → Prop
  | refused {fault : Fault} : Refused builder.symbols terms fault →
      SideFault builder side terms fault
  | noOperand {cause : LeafFault} : NoOperand builder.symbols (unwrapped terms) cause →
      SideFault builder side terms (.operand side .equation cause)
  | part {fault : Fault} : PartFault builder terms fault → SideFault builder side terms fault

/-- Every fault of a side is expected, and none of them is about the equals sign. -/
theorem SideFault.kind {builder : Builder} {side : Side} {terms : List Term} {fault : Fault}
    (faulty : SideFault builder side terms fault) :
    fault.kind.isA .math = true ∧ fault.kind.isA .equation = false := by
  cases faulty with
  | refused refused => cases refused <;> exact ⟨rfl, rfl⟩
  | noOperand _ => cases side <;> exact ⟨rfl, rfl⟩
  | part faulty => cases faulty <;> exact ⟨rfl, rfl⟩

section Resolved

variable {builder : Builder} (resolved : builder.symbols.Resolved) {fault : Fault}
include resolved

theorem sideFault_of_side {which : Side} {terms : List Term}
    (valid : validate builder.symbols terms = .ok ())
    (failed : side builder which terms = .error fault) : SideFault builder which terms fault := by
  have balanced := ((validate_eq_ok_iff resolved).mp valid).1
  rw [side] at failed
  cases built : builder.outcome (builder.maxDepth + 1) terms with
  | ok formula =>
      rw [built] at failed
      cases failed
  | error cause =>
      rw [built] at failed
      cases failed
      rcases explained_of_error resolved _ balanced cause built with ⟨_, rfl, found⟩ | faulty
      · exact .noOperand found
      · rw [faulty.around_eq]
        exact .part faulty

/-- **Every fault of an equation is a fault of one of its sides.** -/
theorem sideFault_of_error {equation : Equation}
    (failed : (equation.build builder).result = .error fault) :
    SideFault builder .left equation.left fault ∨
      SideFault builder .right equation.right fault := by
  rw [build_result] at failed
  rcases fault_of_bind failed with invalid | ⟨_, validLeft, failed⟩
  · exact .inl (.refused (refused_of_error invalid))
  rcases fault_of_bind failed with invalid | ⟨_, validRight, failed⟩
  · exact .inr (.refused (refused_of_error invalid))
  rcases fault_of_bind failed with unbuilt | ⟨_, _, failed⟩
  · exact .inl (sideFault_of_side resolved validLeft unbuilt)
  rcases fault_of_bind failed with unbuilt | ⟨_, _, made⟩
  · exact .inr (sideFault_of_side resolved validRight unbuilt)
  · cases made

/-- Every fault of an equation is expected, and none of them is about the equals sign. -/
theorem kind_of_error {equation : Equation}
    (failed : (equation.build builder).result = .error fault) :
    fault.kind.isA .math = true ∧ fault.kind.isA .equation = false := by
  rcases sideFault_of_error resolved failed with faulty | faulty
  · exact faulty.kind
  · exact faulty.kind

end Resolved

end Equation

namespace Engine

variable {store : SettingStore} {symbols : Symbols} {given : Json} {settings : Settings}
  (resolved : symbols.Resolved) (accepted : Engine.settings store given = .ok settings)
include resolved accepted

/-- **With settings that are accepted, the engine gives what the sides of an equation give.** -/
theorem buildEquation_result (terms : List Term) :
    (buildEquation store symbols given terms).result =
      (Equation.ofTerms terms >>= fun equation =>
        (equation.build (builder symbols settings)).result).mapError Failure.ofFault := by
  have ofBuilder : (builder symbols settings).symbols.Resolved := resolved
  simp only [buildEquation, settleResult, Logged.bind_result, Logged.liftM_result, accepted]
  rw [settle_of_math store false fun _ => Equation.math_of_ofTerms]
  cases Equation.ofTerms terms with
  | error fault => rfl
  | ok equation =>
      exact settle_of_math store settings.debug fun _ failed =>
        (Equation.kind_of_error ofBuilder failed).1

/-- **With one equals sign, the sides are built if the depth in front of it is zero, and the sign is
refused otherwise.** -/
theorem buildEquation_sides {left right : List Term} (absentLeft : Term.equals ∉ left)
    (absentRight : Term.equals ∉ right) :
    (buildEquation store symbols given (left ++ Term.equals :: right)).result =
      if depth left = 0 then
        (Equation.build (builder symbols settings) ⟨left, right, left.length⟩).result.mapError
          Failure.ofFault
      else .error (.ofFault .equalsInBrackets) := by
  rw [buildEquation_result resolved accepted, Equation.ofTerms_sides absentLeft absentRight]
  split <;> rfl

end Engine

end InfixFormula
