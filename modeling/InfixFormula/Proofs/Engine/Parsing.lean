import InfixFormula.Proofs.Grammar.Builder

/-!
# Building is parsing

The engine builds the formulas of the grammar (`build_parses`): building a list of terms gives a
formula exactly if the list has a derivation of it that is not higher than the greatest depth, and
a list whose formula is higher is nested too deep. So every list has at most one formula. The
symbols have to be regular and the settings accepted.
-/

set_option autoImplicit false

namespace InfixFormula.Engine

theorem build_eq_ok_iff_derives {store : SettingStore} {symbols : Symbols} {given : Json}
    {settings : Settings} (regular : symbols.Regular)
    (accepted : Engine.settings store given = .ok settings) (terms : List Term)
    (formula : Formula) :
    (build store symbols given terms).result = .ok formula ↔
      Derives symbols settings.angleUnit symbols.operators terms formula ∧
        formula.height ≤ settings.maxDepth := by
  have ofBuilder : (builder symbols settings).symbols.Regular := regular
  rw [build_eq_ok_iff regular.toResolved accepted]
  exact Builder.validated_eq_ok_iff ofBuilder

/-- **Building is parsing by the grammar**, up to the greatest depth. -/
theorem build_parses {store : SettingStore} {symbols : Symbols} {given : Json}
    {settings : Settings} (regular : symbols.Regular)
    (accepted : Engine.settings store given = .ok settings) (terms : List Term) :
    (∀ formula, (build store symbols given terms).result = .ok formula ↔
      Derives symbols settings.angleUnit symbols.operators terms formula ∧
        formula.height ≤ settings.maxDepth) ∧
    (∀ formula, Derives symbols settings.angleUnit symbols.operators terms formula →
      settings.maxDepth < formula.height →
        (build store symbols given terms).result =
          .error (.ofFault (.tooDeep settings.maxDepth))) ∧
    ∀ formula other, Derives symbols settings.angleUnit symbols.operators terms formula →
      Derives symbols settings.angleUnit symbols.operators terms other → formula = other := by
  have ofBuilder : (builder symbols settings).symbols.Regular := regular
  refine ⟨build_eq_ok_iff_derives regular accepted terms, fun formula derivation high => ?_,
    fun _ _ first second => ?_⟩
  · rw [build_eq_error_iff regular.toResolved accepted, derivation.validated_eq ofBuilder]
    exact if_neg (Nat.not_lt.mpr (Nat.succ_le_of_lt high))
  · exact first.unique ofBuilder second

/-- A chain of differences groups from left to right. -/
theorem build_parses_differences :
    Engine.settings .initial (.object []) =
        .ok ⟨false, 200, .radians, by decide, by decide⟩ ∧
      (build .initial {} (.object []) ["x", "-", "y", "-", "x"]).result =
        .ok (.binary .subtract (.binary .subtract (.reference "x") (.reference "y"))
          (.reference "x")) := by
  have x : Derives {} .radians [] ["x"] (.reference "x") := .reference rfl
  have y : Derives {} .radians [] ["y"] (.reference "y") := .reference rfl
  have inner : Derives {} .radians ["-", "*", "/", "^"] ["x", "-", "y"]
      (.binary .subtract (.reference "x") (.reference "y")) :=
    @Derives.chain _ _ .subtract _ ["x"] ["y"] _ _ (x.of_unit _) (y.of_unit _)
  have outer : Derives {} .radians ["-", "*", "/", "^"] ["x", "-", "y", "-", "x"]
      (.binary .subtract (.binary .subtract (.reference "x") (.reference "y")) (.reference "x")) :=
    @Derives.chain _ _ .subtract _ ["x", "-", "y"] ["x"] _ _ inner (x.of_unit _)
  exact ⟨rfl, ((build_parses Symbols.regular_default rfl _).1 _).mpr ⟨.tighter outer, by decide⟩⟩

end InfixFormula.Engine
