import InfixFormula.Proofs.Engine.Parsing
import InfixFormula.Proofs.Term.Products

/-!
# Products in what is built

A list of terms with a derivation is written in full (`Derives.written`): a derivation puts an
operator, a bracket or the name of a function between any two factors, and a times sign nowhere but
between two factors. So a list that is built has its times signs exactly where a product would be
put in if they were left out, and leaving any of them out loses nothing (`insertProducts_of_build`).
-/

set_option autoImplicit false

namespace InfixFormula

open InfixFormula.Bracket Lexer

/-- **A list with a derivation is written in full.** -/
theorem Derives.written {symbols : Symbols} {unit : AngleUnit} {operators terms : List Term}
    {formula : Formula} (derivation : Derives symbols unit operators terms formula) :
    operators <:+ symbols.operators → Written symbols terms := by
  induction derivation with
  | tighter _ ih => exact fun suffix => ih ((List.suffix_cons _ _).trans suffix)
  | chain _ _ left right =>
      intro suffix
      exact .joined (suffix.subset List.mem_cons_self) (left suffix)
        (right ((List.suffix_cons _ _).trans suffix))
  | reference named => exact fun _ => .single (.inr (.inr (.inl named))) (.inr (.inl named))
  | number _ read =>
      intro _
      have numeral := Option.isSome_iff_exists.mpr ⟨_, read⟩
      exact .single (.inr (.inl numeral)) (.inl numeral)
  | brackets _ ih => exact fun _ => (ih (List.suffix_refl _)).bracketed
  | call named _ ih => exact fun _ => (ih (List.suffix_refl _)).calling named

namespace Engine

/-- **Products that are left out of what is built are put back**, whichever of them are left out. In
particular, where none is left out, none is put in. -/
theorem insertProducts_of_build {store : SettingStore} {given : Json} {terms : List Term}
    {formula : Formula} (built : (build store {} given terms).result = .ok formula) :
    (∀ short, Omits short terms → insertProducts {} short = terms) ∧
      insertProducts {} terms = terms := by
  obtain ⟨settings, accepted⟩ := accepted_of_build built
  have regular := Symbols.regular_default
  have multiplies : Term.times ∈ ({} : Symbols).operators := by decide
  have derivation := ((build_eq_ok_iff_derives regular accepted terms formula).mp built).1
  have written := derivation.written (List.suffix_refl _)
  have restored (short : List Term) (omits : Omits short terms) :
      insertProducts {} short = terms := written.insertProducts_of_omits regular multiplies omits
  exact ⟨restored, restored terms (.refl terms)⟩

/-- Of the two products with a sum in brackets, both are put back. -/
theorem insertProducts_of_build_sum :
    (build .initial {} (.object []) ["y", "*", "(", "x", "+", "y", ")", "*", "x"]).result =
        .ok (.binary .multiply (.binary .multiply (.reference "y")
          (.binary .add (.reference "x") (.reference "y"))) (.reference "x")) ∧
      Omits ["y", "(", "x", "+", "y", ")", "x"] ["y", "*", "(", "x", "+", "y", ")", "*", "x"] ∧
      insertProducts {} ["y", "(", "x", "+", "y", ")", "x"] =
        ["y", "*", "(", "x", "+", "y", ")", "*", "x"] := by
  have x : Derives {} .radians [] ["x"] (.reference "x") := .reference rfl
  have y : Derives {} .radians [] ["y"] (.reference "y") := .reference rfl
  have sum : Derives {} .radians [] ["(", "x", "+", "y", ")"]
      (.binary .add (.reference "x") (.reference "y")) :=
    .brackets (@Derives.chain _ _ .add _ ["x"] ["y"] _ _ (x.of_unit _) (y.of_unit _))
  have inner : Derives {} .radians ["*", "/", "^"] ["y", "*", "(", "x", "+", "y", ")"]
      (.binary .multiply (.reference "y") (.binary .add (.reference "x") (.reference "y"))) :=
    @Derives.chain _ _ .multiply _ ["y"] _ _ _ (y.of_unit _) (sum.of_unit _)
  have outer : Derives {} .radians ["*", "/", "^"] ["y", "*", "(", "x", "+", "y", ")", "*", "x"]
      (.binary .multiply (.binary .multiply (.reference "y")
        (.binary .add (.reference "x") (.reference "y"))) (.reference "x")) :=
    @Derives.chain _ _ .multiply _ ["y", "*", "(", "x", "+", "y", ")"] ["x"] _ _ inner (x.of_unit _)
  have accepted := settings_empty .initial
  have built := (build_eq_ok_iff_derives Symbols.regular_default accepted _ _).mpr
    ⟨.tighter (.tighter outer), by decide⟩
  have omits : Omits ["y", "(", "x", "+", "y", ")", "x"]
      ["y", "*", "(", "x", "+", "y", ")", "*", "x"] :=
    .keep (.drop (.keep (.keep (.keep (.keep (.keep (.drop (.keep .nil))))))))
  exact ⟨built, omits, (insertProducts_of_build built).1 _ omits⟩

end Engine

end InfixFormula
