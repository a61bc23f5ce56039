import InfixFormula.Proofs.Engine.Build

/-!
# The faults that building reports

Whatever the terms are, building them gives a formula or a fault of the kinds that a caller is
told to expect (`Reported`). No fault is internal. A fault is of the base case when the whole list
is valid and no single operand, and of a compound otherwise; a base case that lies deeper is
reported as the cause of a fault about the operand or argument that it is, and such a cause has no
cause of its own. The symbols have to be resolved; they may otherwise be anything.
-/

set_option autoImplicit false

namespace InfixFormula

namespace Fault

theorem code_of_ordinary {fault : Fault} (ordinary : fault.kind.isA .internal = false) :
    fault.code ∉ ["7000", "7001", "7002", "7003"] := by
  fun_cases code fault
  case case18 | case19 | case20 | case21 | case22 => cases ordinary
  all_goals decide

theorem code_of_baseCase {fault : Fault} (isBase : fault.kind.isA .baseCase = true) :
    fault.code ∈ ["3100", "3101"] := by
  cases fault with
  | leaf cause => cases cause <;> simp only [code, List.mem_cons, true_or, or_true]
  | operand side => cases side <;> cases isBase
  | _ => cases isBase

end Fault

namespace Engine

open InfixFormula.Bracket Builder Validation

/-- A cause that is a fault of the base case and has no cause of its own. -/
def BaseCause (fault : Fault) : Prop :=
  ∃ cause, fault.cause? = some cause ∧ cause.kind.isA .baseCase = true ∧ cause.cause? = none

/-- What holds of a fault that building a list of terms reports. -/
structure Reported (terms : List Term) (fault : Fault) : Prop where
  math : fault.kind.isA .math = true
  ordinary : fault.kind.isA .internal = false ∧ fault.code ∉ ["7000", "7001", "7002", "7003"]
  sort : (fault.kind.isA .baseCase = true ∧ fault.code ∈ ["3100", "3101"]) ∨
    (fault.kind.isA .compound = true ∧ fault.kind.isA .baseCase = false)
  operand : fault.kind.isA .leftOperand = true ∨ fault.kind.isA .rightOperand = true →
    BaseCause fault
  argument : fault.kind.isA .functionArgument = true →
    (fault.cause? = none ∧ ∃ function argument, fault = .severalArguments function ∧
      function :: bracketed argument <:+: terms ∧ Outside Term.separator argument) ∨
    BaseCause fault
  flat : ∀ cause, fault.cause? = some cause →
    cause.kind.isA .baseCase = true ∧ cause.cause? = none

/-- Why a list is no single operand, as a cause of a fault. -/
theorem baseCause_of_leaf {fault : Fault} {leaf : LeafFault}
    (caused : fault.cause? = some (.leaf leaf)) : BaseCause fault :=
  ⟨.leaf leaf, caused, by cases leaf <;> rfl, rfl⟩

namespace Reported

variable {builder : Builder} {terms : List Term} {fault : Fault}

/-- A fault that is neither about an operand nor about an argument, and has no cause. -/
theorem of_uncaused (math : fault.kind.isA .math = true)
    (ordinary : fault.kind.isA .internal = false)
    (sort : fault.kind.isA .baseCase = true ∨
      (fault.kind.isA .compound = true ∧ fault.kind.isA .baseCase = false))
    (other : fault.kind.isA .leftOperand = false ∧ fault.kind.isA .rightOperand = false ∧
      fault.kind.isA .functionArgument = false)
    (uncaused : fault.cause? = none) : Reported terms fault where
  math := math
  ordinary := ⟨ordinary, Fault.code_of_ordinary ordinary⟩
  sort := sort.imp_left fun isBase => ⟨isBase, Fault.code_of_baseCase isBase⟩
  operand := by
    obtain ⟨left, right, _⟩ := other
    rw [left, right]
    rintro (isOperand | isOperand) <;> cases isOperand
  argument := by
    rw [other.2.2]
    nofun
  flat := by
    rw [uncaused]
    nofun

/-- A fault with the reason of a list that is no single operand as its cause. -/
theorem of_caused {leaf : LeafFault} (math : fault.kind.isA .math = true)
    (ordinary : fault.kind.isA .internal = false)
    (compound : fault.kind.isA .compound = true ∧ fault.kind.isA .baseCase = false)
    (caused : fault.cause? = some (.leaf leaf)) : Reported terms fault := by
  have base : BaseCause fault := baseCause_of_leaf caused
  refine ⟨math, ⟨ordinary, Fault.code_of_ordinary ordinary⟩, .inr compound, fun _ => base,
    fun _ => .inr base, fun cause found => ?_⟩
  obtain ⟨other, same, isBase, uncaused⟩ := base
  rw [found] at same
  cases same
  exact ⟨isBase, uncaused⟩

theorem of_refused {symbols : Symbols} (refused : Refused symbols terms fault) :
    Reported terms fault := by
  cases refused with
  | unclosedCall => exact of_uncaused rfl rfl (.inr ⟨rfl, rfl⟩) ⟨rfl, rfl, rfl⟩ rfl
  | unmatchedBrackets => exact of_uncaused rfl rfl (.inr ⟨rfl, rfl⟩) ⟨rfl, rfl, rfl⟩ rfl
  | unknownTerm => exact of_uncaused rfl rfl (.inr ⟨rfl, rfl⟩) ⟨rfl, rfl, rfl⟩ rfl
  | malformedCall => exact of_uncaused rfl rfl (.inr ⟨rfl, rfl⟩) ⟨rfl, rfl, rfl⟩ rfl

theorem of_leaf (cause : LeafFault) : Reported terms (.leaf cause) := by
  cases cause with
  | empty => exact of_uncaused rfl rfl (.inl rfl) ⟨rfl, rfl, rfl⟩ rfl
  | notOperand term => exact of_uncaused rfl rfl (.inl rfl) ⟨rfl, rfl, rfl⟩ rfl

theorem of_part (faulty : PartFault builder terms fault) : Reported terms fault := by
  cases faulty with
  | tooDeep => exact of_uncaused rfl rfl (.inr ⟨rfl, rfl⟩) ⟨rfl, rfl, rfl⟩ rfl
  | malformedCall => exact of_uncaused rfl rfl (.inr ⟨rfl, rfl⟩) ⟨rfl, rfl, rfl⟩ rfl
  | missingOperator => exact of_uncaused rfl rfl (.inr ⟨rfl, rfl⟩) ⟨rfl, rfl, rfl⟩ rfl
  | @severalArguments function argument within _ separated =>
      exact {
        math := rfl
        ordinary := ⟨rfl, Fault.code_of_ordinary rfl⟩
        sort := .inr ⟨rfl, rfl⟩
        operand := by rintro (isOperand | isOperand) <;> cases isOperand
        argument := fun _ => .inl ⟨rfl, function, argument, rfl, within, separated⟩
        flat := nofun }
  | argument => exact of_caused rfl rfl ⟨rfl, rfl⟩ rfl
  | leftOperand => exact of_caused rfl rfl ⟨rfl, rfl⟩ rfl
  | rightOperand => exact of_caused rfl rfl ⟨rfl, rfl⟩ rfl

/-- **Every fault of building is reported as a caller expects it.** -/
theorem of_buildFault (faulty : BuildFault builder terms fault) : Reported terms fault := by
  cases faulty with
  | refused refused => exact of_refused refused
  | noOperand _ _ => exact of_leaf _
  | part _ faulty => exact of_part faulty

end Reported

/-- A list is no single operand exactly if without redundant brackets it is empty, or a single
term that is neither a variable nor a numeral. -/
theorem exists_noOperand_iff {symbols : Symbols} {terms : List Term} :
    (∃ cause, NoOperand symbols terms cause) ↔ terms = [] ∨ ∃ term, terms = [term] ∧
      symbols.isVariable term = false ∧ term.isNumeral = false := by
  constructor
  · rintro ⟨_, _ | ⟨other, none⟩⟩
    · exact .inl rfl
    · exact .inr ⟨_, rfl, other, by rw [Term.isNumeral, none]; rfl⟩
  · rintro (rfl | ⟨term, rfl, other, noNumeral⟩)
    · exact ⟨_, .empty⟩
    · exact ⟨_, .single other (Option.isNone_iff_eq_none.mp (by
        rw [← Option.not_isSome, ← Term.isNumeral, noNumeral]; rfl))⟩

/-- **The faults of building.** With symbols that are built in and settings that are accepted,
building a list of terms gives a formula or a fault that is reported as a caller expects it. The
fault is of the base case exactly if the list is valid and without redundant brackets is empty, or
a single term that is neither a variable nor a numeral. -/
theorem build_reports {store : SettingStore} {symbols : Symbols} {given : Json}
    {settings : Settings} (resolved : symbols.Resolved)
    (accepted : Engine.settings store given = .ok settings) (terms : List Term) :
    ((∃ formula, (build store symbols given terms).result = .ok formula) ∨
      ∃ fault, (build store symbols given terms).result = .error (.ofFault fault) ∧
        Reported terms fault) ∧
    ((∃ fault, (build store symbols given terms).result = .error (.ofFault fault) ∧
        fault.kind.isA .baseCase = true) ↔
      validate symbols terms = .ok () ∧ (unwrapped terms = [] ∨ ∃ term, unwrapped terms = [term] ∧
        symbols.isVariable term = false ∧ term.isNumeral = false)) := by
  have ofBuilder : (builder symbols settings).symbols.Resolved := resolved
  rw [← exists_noOperand_iff]
  constructor
  · rw [build_result resolved accepted]
    cases built : (builder symbols settings).validated terms with
    | ok formula => exact .inl ⟨formula, rfl⟩
    | error fault => exact .inr ⟨fault, rfl, .of_buildFault (buildFault_of_error ofBuilder built)⟩
  · simp only [build_eq_error_iff resolved accepted]
    constructor
    · rintro ⟨fault, failed, isBase⟩
      cases buildFault_of_error ofBuilder failed with
      | refused refused => cases refused <;> cases isBase
      | noOperand valid found => exact ⟨valid, _, found⟩
      | part _ faulty => cases faulty <;> cases isBase
    · rintro ⟨valid, cause, found⟩
      exact ⟨.leaf cause, (validated_eq_leaf_iff ofBuilder).mpr ⟨valid, found⟩, by
        cases cause <;> rfl⟩

/-- An operator alone is valid, and building it is a fault of the base case. -/
theorem build_reports_lone_operator :
    Engine.settings .initial (.object []) =
        .ok ⟨false, 200, .radians, by decide, by decide⟩ ∧
      ∃ fault, (build .initial {} (.object []) ["+"]).result = .error (.ofFault fault) ∧
        fault.kind.isA .baseCase = true := by
  have bare : unwrapped ["+"] = ["+"] := unwrapped_of_not_wrapped rfl
  have resolved := Symbols.regular_default.toResolved
  exact ⟨rfl, (build_reports resolved rfl ["+"]).2.mpr ⟨rfl, .inr ⟨"+", bare, rfl, rfl⟩⟩⟩

end Engine

end InfixFormula
