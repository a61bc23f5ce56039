import InfixFormula.Proofs.Engine.Build

/-!
# Brackets around the whole list

Brackets around a balanced list change nothing about what is built from it, unless the list is the
name of a function alone (`build_bracketed_iff`). The same formula or the same fault comes out, and
the same notes are printed.

For a valid list this is because the first thing that a level of the builder does is to strip the
brackets. A list with a malformed call is another matter: the brackets hide its calls from the
validation, which refuses the bare list. What then finds the fault is the check that the builder
makes once the brackets are gone, and it finds the same one, before anything has been noted. This
check is not made for a single term, and so the name of a function alone is a malformed call without
brackets and no operand within them.
-/

set_option autoImplicit false

namespace InfixFormula

open InfixFormula.Bracket Builder Validation

/-! ## What the validation sees -/

namespace Validation

variable {symbols : Symbols} {terms : List Term}

/-- What the validation looks at in a balanced list is whether the terms are known, and then
the calls. -/
theorem validate_of_balanced (balanced : Balanced terms) :
    validate symbols terms =
      checkTerms symbols terms >>= fun _ => checkCalls symbols terms := by
  rw [validate, checkBrackets_of_balanced balanced]
  rfl

/-- A list with a malformed call that is not the name of a function alone has at least two terms,
and it has no brackets around it. -/
theorem bare_of_callFault? (resolved : symbols.Resolved) (balanced : Balanced terms)
    {call : CallFault} (faulty : callFault? symbols terms = some call)
    (several : ∀ name, symbols.isFunction name = true → terms ≠ [name]) :
    isWrapped terms = false ∧ 2 ≤ terms.length := by
  have malformed : ¬ WellCalled symbols terms := by
    rw [← callFault?_eq_none_iff resolved balanced.closed, faulty]
    nofun
  constructor
  · rw [← Bool.not_eq_true, isWrapped_iff balanced]
    rintro ⟨inner, rfl, within⟩
    exact malformed (wellCalled_bracketed resolved within)
  · match terms with
    | [] => cases faulty
    | [term] =>
        have unnamed : symbols.isFunction term = false := by
          rw [← Bool.not_eq_true]
          exact fun named => several term named rfl
        exact absurd (wellCalled_single unnamed) malformed
    | _ :: _ :: rest => exact Nat.le_add_left 2 rest.length

section Regular

variable (regular : symbols.Regular)
include regular

/-- Brackets are known, so the first term that is not known is the same with brackets around. -/
theorem checkTerms_bracketed (terms : List Term) :
    checkTerms symbols (bracketed terms) = checkTerms symbols terms := by
  have opens : symbols.isKnown Term.opening = true :=
    Symbols.isKnown_iff.mpr (.inr (.inr (.inr (.inr regular.opening_special))))
  have closes : symbols.isKnown Term.closing = true :=
    Symbols.isKnown_iff.mpr (.inr (.inr (.inr (.inr regular.closing_special))))
  have found : (bracketed terms).find? (fun term => !symbols.isKnown term) =
      terms.find? fun term => !symbols.isKnown term := by
    simp only [bracketed, List.find?_cons, List.find?_append, List.find?_nil, opens, closes,
      Bool.not_true, Option.or_none]
  rw [checkTerms, checkTerms, found]

/-- Within brackets the validation sees no call. -/
theorem validate_bracketed (balanced : Balanced terms) :
    validate symbols (bracketed terms) = checkTerms symbols terms := by
  have resolved := regular.toResolved
  have complete : callFault? symbols (bracketed terms) = none :=
    (callFault?_eq_none_iff resolved balanced.bracketed.closed).mpr
      (wellCalled_bracketed resolved balanced)
  rw [validate_of_balanced balanced.bracketed, checkTerms_bracketed regular, checkCalls_eq,
    complete]
  cases checkTerms symbols terms <;> rfl

end Regular

end Validation

/-! ## What is built -/

/-- The builder makes the same of a list with brackets around it. -/
theorem Builder.build_bracketed (builder : Builder) {terms : List Term}
    (balanced : Balanced terms) : builder.build (bracketed terms) = builder.build terms :=
  builder.buildLevels_bracketed balanced _

namespace Engine

variable {store : SettingStore} {symbols : Symbols} {given : Json} {settings : Settings}
  {terms : List Term}

/-- A fault that comes without notes is settled the same whether notes are asked for or not. -/
theorem settle_fail (debug : Bool) (fault : Fault) :
    settle store debug (Logged.fail fault : Build Formula) =
      settle store false (Logged.fail fault) := by
  cases debug <;> rfl

/-- The name of a function alone is no operand, and refused as a call. -/
theorem build_bracketed_function (regular : symbols.Regular)
    (accepted : Engine.settings store given = .ok settings) {name : Term}
    (named : symbols.isFunction name = true) :
    build store symbols given (bracketed [name]) ≠ build store symbols given [name] := by
  have resolved := regular.toResolved
  have ofBuilder : (builder symbols settings).symbols.Resolved := resolved
  have balanced : Balanced [name] := .single (resolved.weight_function named)
  have known : symbols.isKnown name = true :=
    Symbols.isKnown_iff.mpr (.inr (.inr (.inr (.inl (Symbols.isFunction_iff.mp named)))))
  have unread : Numeral.read? name = none := by
    rw [← Option.not_isSome_iff_eq_none, Option.isSome_iff_exists]
    rintro ⟨value, read⟩
    rw [resolved.isFunction_numeral read] at named
    cases named
  have valid : validate symbols (bracketed [name]) = .ok () := by
    rw [validate_bracketed regular balanced, checkTerms_eq_ok_iff]
    intro term member
    rwa [List.mem_singleton.mp member]
  have within : (build store symbols given (bracketed [name])).result =
      .error (.ofFault (.leaf (.notOperand name))) := by
    rw [build_eq_error_iff resolved accepted, validated_eq_leaf_iff ofBuilder,
      unwrapped_bracketed balanced, unwrapped_of_not_wrapped rfl]
    exact ⟨valid, .single (regular.isVariable_function named) unread⟩
  intro same
  rw [same, build_eq_error_iff resolved accepted, validated_eq_leaf_iff ofBuilder] at within
  obtain ⟨_, opens⟩ := ((validate_eq_ok_iff resolved).mp within.1).2.2 [] name [] rfl rfl named
  cases opens

/-- **Brackets around a balanced list change nothing, unless it is the name of a function alone.**
With settings that are accepted, the same formula is built or the same fault reported, with the same
notes. -/
theorem build_bracketed_iff (regular : symbols.Regular)
    (accepted : Engine.settings store given = .ok settings) (balanced : Balanced terms) :
    build store symbols given (bracketed terms) = build store symbols given terms ↔
      ∀ name, symbols.isFunction name = true → terms ≠ [name] := by
  constructor
  · rintro same name named rfl
    exact build_bracketed_function regular accepted named same
  · intro several
    have created : create store symbols given (bracketed terms) =
        create store symbols given terms := by
      simp only [create, Builder.build_bracketed _ balanced]
    rw [build, build, validate_bracketed regular balanced, created, validate_of_balanced balanced,
      checkCalls_eq]
    cases checkTerms symbols terms with
    | error fault => rfl
    | ok =>
        cases faulty : callFault? symbols terms with
        | none => rfl
        | some call =>
            obtain ⟨bare, long⟩ := bare_of_callFault? regular.toResolved balanced faulty several
            have levels : ((settings.maxDepth : Int) + 1 - 0).toNat = settings.maxDepth + 1 := by
              omega
            have failed : (builder symbols settings).build terms =
                Logged.fail (.malformedCall call) := by
              rw [Builder.build, buildAt, builder, levels]
              exact buildLevels_malformed _ bare long faulty
            rw [create, accepted]
            show settle store settings.debug ((builder symbols settings).build terms) =
              settle store false (Logged.fail (.malformedCall call))
            rw [failed]
            exact settle_fail settings.debug (.malformedCall call)

/-- A function without brackets around its argument is found in brackets as well as without
them. -/
theorem build_bracketed_malformed :
    Engine.settings .initial (.object []) =
        .ok ⟨false, 200, .radians, by decide, by decide⟩ ∧
      Balanced ["x", "+", "sin", "y"] ∧
      (∀ name, ({} : Symbols).isFunction name = true → ["x", "+", "sin", "y"] ≠ [name]) ∧
      build .initial {} (.object []) ["(", "x", "+", "sin", "y", ")"] =
        build .initial {} (.object []) ["x", "+", "sin", "y"] := by
  have accepted := settings_empty .initial
  have balanced : Balanced ["x", "+", "sin", "y"] := by decide
  have several (name : Term) (_ : ({} : Symbols).isFunction name = true) :
      ["x", "+", "sin", "y"] ≠ [name] := by simp
  exact ⟨accepted, balanced, several,
    (build_bracketed_iff Symbols.regular_default accepted balanced).mpr several⟩

end Engine

end InfixFormula
