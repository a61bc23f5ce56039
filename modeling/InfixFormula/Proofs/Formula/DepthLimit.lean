import InfixFormula.Proofs.Formula.Faults
import InfixFormula.Proofs.Result

/-!
# The greatest depth

The greatest depth is a limit and nothing else. A builder with a higher limit does what a builder
with a lower one does, notes included, unless the lower limit is met (`buildLevels_cut`). The
relation between what the two make of a list (`Logged.Cut`) is kept by every way of putting results
together, because nothing around a part changes the fault of a part that lies too deep; so one
induction over the levels is enough, and it needs no assumption on the symbols or the list.

A list meets the limit only if it has at least as many terms as there are levels, since every part
has fewer terms than its list (`levels_le_of_tooDeep`).
-/

set_option autoImplicit false

namespace InfixFormula

/-! ## Results that are cut off -/

/-- A fault cuts a result off, or it is the other result, with the same notes. -/
def Logged.Cut {ν ε α : Type} (fault : ε) (cut whole : Logged ν ε α) : Prop :=
  cut.result = .error fault ∨ cut = whole

namespace Logged.Cut

variable {ν ε α β : Type} {fault : ε}

theorem refl (logged : Logged ν ε α) : Cut fault logged logged :=
  .inr rfl

theorem bind {first whole : Logged ν ε α} {next later : α → Logged ν ε β}
    (cut : Cut fault first whole) (cuts : ∀ value, Cut fault (next value) (later value)) :
    Cut fault (first >>= next) (whole >>= later) := by
  rcases cut with failed | rfl
  · left
    rw [bind_result, failed]
    rfl
  · show Cut fault (Logged.bind first next) (Logged.bind first later)
    rw [Logged.bind, Logged.bind]
    split
    next value result =>
      rcases cuts value with failed | same
      · exact .inl failed
      · rw [same]
        exact .refl _
    next => exact .refl _

/-- A change of the fault keeps that a result is cut off, if it leaves this fault as it is. -/
theorem mapFault {logged whole : Logged ν ε α} (cut : Cut fault logged whole) {change : ε → ε}
    (kept : change fault = fault) : Cut fault (logged.mapFault change) (whole.mapFault change) := by
  rcases cut with failed | rfl
  · left
    rw [mapFault_result, failed]
    exact congrArg Except.error kept
  · exact .refl _

end Logged.Cut

namespace Builder

open InfixFormula.Bracket Logged Validation

/-! ## One level and all of them -/

section Levels

variable (builder : Builder) (deeper : Nat)

section Level

variable {build higher : List Term → Build Formula}
  {limit : Nat} (cuts : ∀ terms, Cut (.tooDeep limit) (build terms) (higher terms)) (depth : Int)
include cuts

theorem call_cut (function : Term) (argument : List Term) :
    Cut (.tooDeep limit) (builder.call build depth function argument)
      ({ builder with maxDepth := deeper }.call higher depth function argument) := by
  simp only [call]
  split
  next => exact .refl _
  next => exact ((cuts argument).mapFault rfl).bind fun _ => .refl _

theorem split_cut (terms : List Term) :
    Cut (.tooDeep limit) (builder.split build depth terms)
      ({ builder with maxDepth := deeper }.split higher depth terms) := by
  simp only [split]
  split
  next => exact .refl _
  next =>
    refine Cut.bind (.refl _) fun _ => ?_
    refine ((cuts _).mapFault rfl).bind fun _ => ?_
    exact ((cuts _).mapFault rfl).bind fun _ => .refl _

theorem buildUnwrapped_cut (terms : List Term) :
    Cut (.tooDeep limit) (builder.buildUnwrapped build depth terms)
      ({ builder with maxDepth := deeper }.buildUnwrapped higher depth terms) := by
  rcases terms with _ | ⟨first, _ | ⟨second, rest⟩⟩
  · exact .refl _
  · exact .refl _
  · refine Cut.bind (.refl _) fun _ => ?_
    simp only
    split
    next => exact builder.call_cut deeper cuts depth first _
    next => exact builder.split_cut deeper cuts depth _

end Level

/-- **A higher limit changes nothing but where a build is cut off.** The depth that the notes show
counts from the top, so it does not depend on the limit. -/
theorem buildLevels_cut (extra : Nat) (levels : Nat) (terms : List Term) :
    Cut (.tooDeep builder.maxDepth) (builder.buildLevels levels terms)
      ({ builder with maxDepth := builder.maxDepth + extra }.buildLevels (levels + extra)
        terms) := by
  induction levels generalizing terms with
  | zero => exact .inl rfl
  | succ levels ih =>
      have depth : ((builder.maxDepth + extra : Nat) : Int) - (levels + extra : Nat) =
          builder.maxDepth - levels := by omega
      rw [Nat.add_right_comm, buildLevels, buildLevels, depth]
      exact builder.buildUnwrapped_cut _ ih _ _

/-- The same for building from the top. -/
theorem build_cut {deeper : Nat} (le : builder.maxDepth ≤ deeper) (terms : List Term) :
    Cut (.tooDeep builder.maxDepth) (builder.build terms)
      ({ builder with maxDepth := deeper }.build terms) := by
  obtain ⟨extra, rfl⟩ := Nat.exists_eq_add_of_le le
  have levels (limit : Nat) : ((limit : Int) + 1 - 0).toNat = limit + 1 := by omega
  rw [build, build, buildAt, buildAt, levels, levels, Nat.add_right_comm]
  exact builder.buildLevels_cut extra _ terms

end Levels

/-! ## Lists that never meet the limit -/

/-- **A list that is too deep has at least as many terms as there are levels.** -/
theorem levels_le_of_tooDeep {builder : Builder} (resolved : builder.symbols.Resolved)
    {limit : Nat} (levels : Nat) {terms : List Term} (balanced : Balanced terms) :
    builder.outcome levels terms = .error (.tooDeep limit) → levels ≤ terms.length := by
  induction levels, balanced using levelInduction resolved with
  | zero => exact fun _ => Nat.zero_le _
  | pair levels inner balanced ih =>
      intro failed
      rw [outcome_bracketed builder balanced] at failed
      have inside := ih failed
      simp only [bracketed, List.length_cons, List.length_append]
      omega
  | empty levels =>
      intro failed
      rw [outcome_empty] at failed
      cases failed
  | single levels term balanced =>
      intro failed
      rw [outcome_single] at failed
      cases (leaf_eq_error_iff.mp failed).1
  | malformed levels terms call balanced bare long found =>
      intro failed
      rw [outcome_malformed builder bare long found] at failed
      cases failed
  | call levels function argument named within balanced ih =>
      intro failed
      rw [outcome_call resolved named within] at failed
      split at failed
      next => cases failed
      next =>
        rcases fault_of_bind failed with argumentFailed | ⟨formula, _, unmade⟩
        · have inside := ih (error_of_around argumentFailed (by rintro _ ⟨⟩))
          simp only [bracketed, List.length_cons, List.length_append]
          omega
        · exact absurd unmade (ofFunction_ne_error resolved named _ _ _)
  | split levels before operator after splits balanced long wellCalled left right =>
      intro failed
      rw [outcome_split resolved splits long wellCalled] at failed
      rw [List.length_append, List.length_cons]
      rcases fault_of_bind failed with leftFailed | ⟨formula, _, failed⟩
      · have inside := left (error_of_around leftFailed (by rintro _ ⟨⟩))
        omega
      rcases fault_of_bind failed with rightFailed | ⟨other, _, unmade⟩
      · have inside := right (error_of_around rightFailed (by rintro _ ⟨⟩))
        omega
      · exact absurd unmade (ofOperator_ne_error resolved splits.member _ _ _)
  | unsplit levels terms balanced bare long wellCalled uncalled unsplit =>
      intro failed
      rw [outcome_unsplit resolved balanced bare long wellCalled uncalled unsplit] at failed
      cases failed

end Builder

end InfixFormula
