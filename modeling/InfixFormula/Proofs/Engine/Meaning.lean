import InfixFormula.Proofs.Engine.Parsing
import InfixFormula.Proofs.Grammar.Convention
import Mathlib.Algebra.Field.Rat

/-!
# The meaning of what is built

With the standard symbols, a list of terms that the engine builds has exactly one value by the
convention, and this is the value of the formula (`build_keeps_meaning`).
-/

set_option autoImplicit false

namespace InfixFormula.Engine

universe u

/-- **Building keeps the conventional meaning.** The conventional reading of a list of terms that
is built gives the value of the formula and no other value, in every field, with every meaning of
numerals, variables, powers and functions, and with every function as inverse. -/
theorem build_keeps_meaning {store : SettingStore} {given : Json} {terms : List Term}
    {formula : Formula} (built : (build store {} given terms).result = .ok formula)
    {K : Type u} [Field K] (interpretation : Interpretation K) (x : K) :
    Reads interpretation {} .sum terms x ↔ x = interpretation.value formula := by
  obtain ⟨settings, accepted⟩ := accepted_of_build built
  have regular := Symbols.regular_default
  have derivation := ((build_eq_ok_iff_derives regular accepted terms formula).mp built).1
  constructor
  · intro reading
    obtain ⟨other, otherDerivation, rfl⟩ := reading.derives settings.angleUnit
    have ofBuilder : (builder {} settings).symbols.Regular := regular
    rw [derivation.unique ofBuilder otherDerivation]
  · rintro rfl
    exact derivation.reads (List.suffix_refl _)

/-- A sum that is followed by a difference is built as the sum with a difference, and is read as
the difference from a sum. -/
theorem build_keeps_meaning_mixed :
    (build .initial {} (.object []) ["x", "+", "y", "-", "x"]).result =
        .ok (.binary .add (.reference "x") (.binary .subtract (.reference "y") (.reference "x"))) ∧
      Reads (K := ℚ) ⟨fun _ => 0, fun name => if name = "x" then 5 else 3, fun x => x⁻¹,
        fun x _ => x, fun _ x => x⟩ {} .sum ["x", "+", "y", "-", "x"] 3 := by
  have x : Derives {} .radians [] ["x"] (.reference "x") := .reference rfl
  have y : Derives {} .radians [] ["y"] (.reference "y") := .reference rfl
  have difference : Derives {} .radians ["-", "*", "/", "^"] ["y", "-", "x"]
      (.binary .subtract (.reference "y") (.reference "x")) :=
    @Derives.chain _ _ .subtract _ ["y"] ["x"] _ _ (y.of_unit _) (x.of_unit _)
  have sum : Derives {} .radians ["+", "-", "*", "/", "^"] ["x", "+", "y", "-", "x"]
      (.binary .add (.reference "x") (.binary .subtract (.reference "y") (.reference "x"))) :=
    @Derives.chain _ _ .add _ ["x"] ["y", "-", "x"] _ _ (x.of_unit _) difference
  have accepted : Engine.settings .initial (.object []) =
      .ok ⟨false, 200, .radians, by decide, by decide⟩ := rfl
  have built := (build_eq_ok_iff_derives Symbols.regular_default accepted _ _).mpr
    ⟨sum, by decide⟩
  exact ⟨built, (build_keeps_meaning built _ _).mpr (by decide +kernel)⟩

end InfixFormula.Engine
