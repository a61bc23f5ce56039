import InfixFormula.Proofs.Engine.Build
import InfixFormula.Proofs.Formula.DepthLimit

/-!
# Building under two depth limits

Two settings that differ in the greatest depth only, build the same: the same formula or the same
fault, with the same notes, unless the lower limit is met (`build_under_limits`). So a lower limit
puts the fault of the limit in the place of what else would come out, and never a different formula
or a different fault. A list with no more terms than the lower limit is built the same in any case.
-/

set_option autoImplicit false

namespace InfixFormula.Engine

open InfixFormula.Bracket Builder Validation

/-- Settling keeps what a limit does. -/
theorem settle_cut (store : SettingStore) (debug : Bool) {limit : Nat}
    {build higher : Build Formula}
    (cut : Logged.Cut (.tooDeep limit) build higher) :
    Logged.Cut (.ofFault (.tooDeep limit)) (settle store debug build)
      (settle store debug higher) := by
  rcases cut with failed | rfl
  · left
    simp only [settle, Logged.bind_result, failed]
    rfl
  · exact .refl _

section Accepted

variable {store : SettingStore} {symbols : Symbols} {given other : Json} {lower higher : Settings}
  (accepted : Engine.settings store given = .ok lower)
  (acceptedOther : Engine.settings store other = .ok higher)
  (sameNotes : lower.debug = higher.debug) (sameUnit : lower.angleUnit = higher.angleUnit)
  (le : lower.maxDepth ≤ higher.maxDepth) (terms : List Term)
include accepted acceptedOther sameNotes sameUnit le

theorem create_cut :
    Logged.Cut (.ofFault (.tooDeep lower.maxDepth)) (create store symbols given terms)
      (create store symbols other terms) := by
  have deeper : builder symbols higher =
      { builder symbols lower with maxDepth := higher.maxDepth } := by
    rw [builder, builder, sameUnit]
  have cut := (builder symbols lower).build_cut le terms
  rw [create, create, accepted, acceptedOther]
  show Logged.Cut _ (settle store lower.debug _) (settle store higher.debug _)
  rw [← sameNotes, deeper]
  exact settle_cut store lower.debug cut

theorem build_cut :
    Logged.Cut (.ofFault (.tooDeep lower.maxDepth)) (build store symbols given terms)
      (build store symbols other terms) :=
  Logged.Cut.bind (.refl _) fun _ =>
    create_cut accepted acceptedOther sameNotes sameUnit le terms

/-- **The depth limit is transparent.** Under settings that differ in the greatest depth only, a
list of terms is built the same, with the same notes, unless the lower limit is met; and a list with
no more terms than the lower limit never meets it. -/
theorem build_under_limits (resolved : symbols.Resolved) :
    ((build store symbols given terms).result = .error (.ofFault (.tooDeep lower.maxDepth)) ∨
      build store symbols given terms = build store symbols other terms) ∧
    (terms.length ≤ lower.maxDepth →
      build store symbols given terms = build store symbols other terms) := by
  have cut : Logged.Cut _ (build store symbols given terms) (build store symbols other terms) :=
    build_cut accepted acceptedOther sameNotes sameUnit le terms
  refine ⟨cut, fun short => cut.resolve_left fun failed => ?_⟩
  have tooDeep := (build_eq_error_iff resolved accepted terms _).mp failed
  rcases fault_of_bind tooDeep with refused | ⟨_, valid, tooDeep⟩
  · cases refused_of_error refused
  · have balanced := ((validate_eq_ok_iff resolved).mp valid).1
    have ofBuilder : (builder symbols lower).symbols.Resolved := resolved
    exact absurd (levels_le_of_tooDeep ofBuilder _ balanced tooDeep)
      (Nat.not_le.mpr (Nat.lt_succ_of_le short))

end Accepted

/-- A product with a sum that lacks its right operand has six terms, so it is built the same under
the limit 6 and under the default. -/
theorem build_under_limits_sum :
    Engine.settings .initial (.object [("max_depth", .number (.integer 6))]) =
        .ok ⟨false, 6, .radians, by decide, by decide⟩ ∧
      Engine.settings .initial (.object []) = .ok ⟨false, 200, .radians, by decide, by decide⟩ ∧
      build .initial {} (.object [("max_depth", .number (.integer 6))])
          ["x", "*", "(", "y", "+", ")"] =
        build .initial {} (.object []) ["x", "*", "(", "y", "+", ")"] := by
  have accepted : Engine.settings .initial (.object [("max_depth", .number (.integer 6))]) =
      .ok ⟨false, 6, .radians, by decide, by decide⟩ := rfl
  have default := settings_empty .initial
  exact ⟨accepted, default, (build_under_limits accepted default rfl rfl (by decide) _
    Symbols.regular_default.toResolved).2 (by decide)⟩

end InfixFormula.Engine
